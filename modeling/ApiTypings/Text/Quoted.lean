import ApiTypings.Text.Pieces

/-!
# Quoted text

A text between double quotes, in which a backslash announces everything that
could end the quotation or leave its line. `encode` is the body of a quoted
text and `decode` reads it back; `quote` adds the quotes.

Two writers share the format: one leaves all characters from U+007F on as they
are, the other writes them as UTF-16 units so that the result is ASCII.
-/

namespace ApiTypings.Text

/-- Which characters are written by number. -/
inductive Escaping
  /-- Only what the format forces: the quote, the backslash and controls below U+0020. -/
  | needed
  /-- Everything outside the printable part of ASCII as well. -/
  | ascii
deriving DecidableEq, Repr

def hexDigit (n : Nat) : Char := Nat.digitChar (n % 16)

def hex4 (n : Nat) : List Char :=
  [hexDigit (n / 4096), hexDigit (n / 256), hexDigit (n / 16), hexDigit n]

def unitEscape (n : Nat) : List Char := '\\' :: 'u' :: hex4 n

def units16 (c : Char) : List Nat :=
  let n := c.toNat
  if n < 0x10000 then [n]
  else [0xD800 + (n - 0x10000) / 0x400, 0xDC00 + (n - 0x10000) % 0x400]

def encodeChar (mode : Escaping) (c : Char) : List Char :=
  if c = '"' then ['\\', '"']
  else if c = '\\' then ['\\', '\\']
  else if c = '\n' then ['\\', 'n']
  else if c = '\r' then ['\\', 'r']
  else if c = '\t' then ['\\', 't']
  else if c = '\x08' then ['\\', 'b']
  else if c = '\x0c' then ['\\', 'f']
  else if c.toNat < 0x20 then unitEscape c.toNat
  else match mode with
    | .needed => [c]
    | .ascii => if c.toNat < 0x7F then [c] else (units16 c).flatMap unitEscape

def encode (mode : Escaping) (cs : List Char) : List Char := cs.flatMap (encodeChar mode)

def quoteWith (mode : Escaping) (s : String) : String :=
  String.ofList ('"' :: encode mode s.toList ++ ['"'])

/-- A text as a quoted literal in which only the necessary is escaped. -/
def quote (s : String) : String := quoteWith .needed s

/-- The value of a hexadecimal digit of either case. -/
def hexValue? (c : Char) : Option Nat :=
  if '0' ≤ c ∧ c ≤ '9' then some (c.toNat - 48)
  else if 'a' ≤ c ∧ c ≤ 'f' then some (c.toNat - 87)
  else if 'A' ≤ c ∧ c ≤ 'F' then some (c.toNat - 55)
  else none

/-- Four hexadecimal digits and what follows them. -/
def unit16? : List Char → Option (Nat × List Char)
  | a :: b :: c :: d :: rest => do
    let a ← hexValue? a
    let b ← hexValue? b
    let c ← hexValue? c
    let d ← hexValue? d
    return (4096 * a + 256 * b + 16 * c + d, rest)
  | _ => none

/-- The character a one-letter escape stands for. -/
def shortEscape? (c : Char) : Option Char :=
  if c = '"' then some '"' else if c = '\\' then some '\\' else if c = '/' then some '/'
  else if c = 'b' then some '\x08' else if c = 'f' then some '\x0c' else if c = 'n' then some '\n'
  else if c = 'r' then some '\r' else if c = 't' then some '\t' else none

/-- Whether the unit opens a surrogate pair. -/
def isHighSurrogate (n : Nat) : Bool := 0xD800 ≤ n && n ≤ 0xDBFF

/-- Whether the unit closes a surrogate pair. -/
def isLowSurrogate (n : Nat) : Bool := 0xDC00 ≤ n && n ≤ 0xDFFF

def pairChar (high low : Nat) : Char :=
  Char.ofNat (0x10000 + (high - 0xD800) * 0x400 + (low - 0xDC00))

/-- The character of a single unit. Half a surrogate pair has none and is not kept: it becomes the
replacement character, so that every text can be written in UTF-8. -/
def unitChar (n : Nat) : Char :=
  if isHighSurrogate n || isLowSurrogate n then '\uFFFD' else Char.ofNat n

end ApiTypings.Text
