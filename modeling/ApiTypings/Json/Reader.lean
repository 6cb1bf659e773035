import ApiTypings.Json.Basic
import ApiTypings.Text.Quoted

/-!
# Reading JSON text

A reader for JSON in which `NaN`, `Infinity` and `-Infinity` are numbers, a
repeated member takes its last value at its first place, and a text may hold
any character but the controls below U+0020. An error says what was expected
and where: the place is kept as the number of characters still unread, and
`Mistake.message` turns it into line, column and offset.

`parse` is total: every step of the readers takes fuel, and each of them
consumes a character, so twice the length of the text is never used up. Values
may be nested to any depth. An escape for half a surrogate pair that stands by
itself is read as the replacement character.
-/

namespace ApiTypings.Json

open Number Text

/-- What is wrong with a text that is no JSON. -/
inductive Problem
  | byteOrderMark
  | value
  | memberName
  | colon
  | comma
  | extra
  | unterminated
  | control
  | escape
  | unicodeEscape
deriving DecidableEq, Repr

def Problem.words : Problem → String
  | .byteOrderMark => "Unexpected UTF-8 BOM (decode using utf-8-sig)"
  | .value => "Expecting value"
  | .memberName => "Expecting property name enclosed in double quotes"
  | .colon => "Expecting ':' delimiter"
  | .comma => "Expecting ',' delimiter"
  | .extra => "Extra data"
  | .unterminated => "Unterminated string starting at"
  | .control => "Invalid control character at"
  | .escape => "Invalid \\escape"
  | .unicodeEscape => "Invalid \\uXXXX escape"

inductive Mistake
  /-- A problem in front of the last `unread` characters. -/
  | malformed (problem : Problem) (unread : Nat)
  /-- An integer with more digits than are read. -/
  | integerTooLong (digits : Nat)
deriving DecidableEq, Repr

/-- Integers of more digits than this are refused. -/
def longestInteger : Nat := 4300

/-- The line, the column and the offset of the position in front of the last `unread` characters:
lines and columns count from one. -/
def place (text : List Char) (unread : Nat) : Nat × Nat × Nat :=
  let offset := text.length - unread
  let before := text.take offset
  let line := before.count '\n' + 1
  let column := (before.reverse.takeWhile (· ≠ '\n')).length + 1
  (line, column, offset)

/-- The message of a mistake found in `text`. -/
def Mistake.message (text : List Char) : Mistake → String
  | .malformed problem unread =>
    let (line, column, offset) := place text unread
    problem.words ++ ": line " ++ toString line ++ " column " ++ toString column ++
      " (char " ++ toString offset ++ ")"
  | .integerTooLong digits =>
    "Exceeds the limit (" ++ toString longestInteger ++
      " digits) for integer string conversion: value has " ++ toString digits ++
      " digits; use sys.set_int_max_str_digits() to increase the limit"

/-- What a reader found and what it left unread. -/
abbrev Reading (α : Type) := Except Mistake (α × List Char)

def failAt {α : Type} (problem : Problem) (rest : List Char) : Except Mistake α :=
  .error (.malformed problem rest.length)

def isSpace (c : Char) : Bool := c == ' ' || c == '\t' || c == '\n' || c == '\r'

def skip (cs : List Char) : List Char := cs.dropWhile isSpace

/-- Reads the body of a text up to its closing quote. `opening` is the number of characters that
were unread at the opening quote. An escape of two units is one character if they are a
surrogate pair; a text that ends within an escape of a unit is a bad escape. -/
def readText (opening : Nat) : (fuel : Nat) → (acc rest : List Char) → Reading String
  | 0, _, _ => .error (.malformed .unterminated opening)
  | _ + 1, _, [] => .error (.malformed .unterminated opening)
  | _ + 1, acc, '"' :: rest => .ok (String.ofList acc.reverse, rest)
  | _ + 1, _, ['\\'] => .error (.malformed .unterminated opening)
  | fuel + 1, acc, '\\' :: 'u' :: rest =>
    match unit16? rest with
    | none | some (_, []) => .error (.malformed .unicodeEscape (rest.length + 1))
    | some (high, '\\' :: 'u' :: low :: after) =>
      if isHighSurrogate high && 4 < (low :: after).length then
        match unit16? (low :: after) with
        | none => .error (.malformed .unicodeEscape (after.length + 2))
        | some (unit, after') =>
          if isLowSurrogate unit then readText opening fuel (pairChar high unit :: acc) after'
          else readText opening fuel (unitChar high :: acc) ('\\' :: 'u' :: low :: after)
      else readText opening fuel (unitChar high :: acc) ('\\' :: 'u' :: low :: after)
    | some (unit, after) => readText opening fuel (unitChar unit :: acc) after
  | fuel + 1, acc, '\\' :: c :: rest =>
    match shortEscape? c with
    | some c => readText opening fuel (c :: acc) rest
    | none => .error (.malformed .escape (rest.length + 2))
  | fuel + 1, acc, c :: rest =>
    if c.toNat < 0x20 then failAt .control (c :: rest)
    else readText opening fuel (c :: acc) rest

def isDigit (c : Char) : Bool := '0' ≤ c && c ≤ '9'

def digitsValue (cs : List Char) : Nat := Nat.ofDigitChars 10 cs 0

/-- The digits of a fraction, if a point and a digit come next. -/
def readFraction : List Char → List Char × List Char
  | '.' :: c :: rest =>
    if isDigit c then ((c :: rest).takeWhile isDigit, (c :: rest).dropWhile isDigit)
    else ([], '.' :: c :: rest)
  | rest => ([], rest)

/-- The exponent, if a mark, perhaps a sign, and a digit come next. -/
def readExponent (cs : List Char) : Option (Int × List Char) :=
  match cs with
  | c :: rest =>
    if c = 'e' ∨ c = 'E' then
      let (negative, digits) := match rest with
        | '-' :: more => (true, more)
        | '+' :: more => (false, more)
        | more => (false, more)
      let run := digits.takeWhile isDigit
      if run.isEmpty then none
      else
        let n : Int := digitsValue run
        some (if negative then -n else n, digits.dropWhile isDigit)
    else none
  | [] => none

/-- Reads a number that begins with a digit. `start` is the text at its sign. -/
def readNumber (start : List Char) (negative : Bool) (cs : List Char) : Reading Json :=
  let whole := match cs with
    | '0' :: _ => ['0']
    | _ => cs.takeWhile isDigit
  if whole.isEmpty then failAt .value start
  else
    let (fraction, afterFraction) := readFraction (cs.drop whole.length)
    let exponent := readExponent afterFraction
    match fraction, exponent with
    | [], none =>
      if longestInteger < whole.length then .error (.integerTooLong whole.length)
      else
        let n : Int := digitsValue whole
        .ok (.int (if negative then -n else n), afterFraction)
    | _, _ =>
      let power := (exponent.map Prod.fst).getD 0 - fraction.length
      .ok (.real (.ofDecimal negative (digitsValue (whole ++ fraction)) power),
        (exponent.map Prod.snd).getD afterFraction)

def readPlain (cs : List Char) : Reading Json :=
  match dropStart? "null".toList cs, dropStart? "true".toList cs, dropStart? "false".toList cs,
      dropStart? "NaN".toList cs, dropStart? "Infinity".toList cs,
      dropStart? "-Infinity".toList cs with
  | some rest, _, _, _, _, _ => .ok (.null, rest)
  | _, some rest, _, _, _, _ => .ok (.bool true, rest)
  | _, _, some rest, _, _, _ => .ok (.bool false, rest)
  | _, _, _, some rest, _, _ => .ok (.real .nan, rest)
  | _, _, _, _, some rest, _ => .ok (.real (.infinite false), rest)
  | _, _, _, _, _, some rest => .ok (.real (.infinite true), rest)
  | _, _, _, _, _, _ =>
    match cs with
    | '-' :: digits => readNumber cs true digits
    | digits => readNumber cs false digits

mutual

def readValue : (fuel : Nat) → List Char → Reading Json
  | 0, rest => failAt .value rest
  | _ + 1, '"' :: rest =>
    match readText (rest.length + 1) (rest.length + 1) [] rest with
    | .ok (s, rest) => .ok (.string s, rest)
    | .error e => .error e
  | fuel + 1, '[' :: rest =>
    match skip rest with
    | ']' :: rest => .ok (.array [], rest)
    | rest => readItems fuel [] rest
  | fuel + 1, '\x7b' :: rest =>
    match skip rest with
    | '\x7d' :: rest => .ok (.object [], rest)
    | rest => readMembers fuel [] rest
  | _ + 1, rest => readPlain rest

/-- Reads the items of a list up to its end; `acc` holds those before, the last one first. -/
def readItems : (fuel : Nat) → (acc : List Json) → List Char → Reading Json
  | 0, _, rest => failAt .value rest
  | fuel + 1, acc, rest =>
    match readValue fuel rest with
    | .error e => .error e
    | .ok (item, rest) =>
      match skip rest with
      | ']' :: rest => .ok (.array (item :: acc).reverse, rest)
      | ',' :: rest => readItems fuel (item :: acc) (skip rest)
      | rest => failAt .comma rest

/-- Reads the members of an object up to its end; `acc` holds those before, the last one first. -/
def readMembers : (fuel : Nat) → (acc : List (String × Json)) → List Char → Reading Json
  | 0, _, rest => failAt .value rest
  | fuel + 1, acc, '"' :: rest =>
    match readText (rest.length + 1) (rest.length + 1) [] rest with
    | .error e => .error e
    | .ok (name, rest) =>
      match skip rest with
      | ':' :: rest =>
        match readValue fuel (skip rest) with
        | .error e => .error e
        | .ok (value, rest) =>
          match skip rest with
          | '\x7d' :: rest => .ok (.object (distinctMembers ((name, value) :: acc).reverse), rest)
          | ',' :: rest => readMembers fuel ((name, value) :: acc) (skip rest)
          | rest => failAt .comma rest
      | rest => failAt .colon rest
  | _ + 1, _, rest => failAt .memberName rest

end

/-- Reads a text that is one JSON value between white space. A byte order mark in front of it is
no part of JSON. -/
def parseChars (cs : List Char) : Except Mistake Json :=
  match cs with
  | '\uFEFF' :: _ => failAt .byteOrderMark cs
  | _ =>
    match readValue (2 * cs.length + 2) (skip cs) with
    | .error e => .error e
    | .ok (value, rest) =>
      match skip rest with
      | [] => .ok value
      | rest => failAt .extra rest

/-- Reads a text that is one JSON value. -/
def parse (s : String) : Except Mistake Json := parseChars s.toList

end ApiTypings.Json
