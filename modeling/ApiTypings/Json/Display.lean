import ApiTypings.Json.Printer
import ApiTypings.Text.Printable

/-!
# Values in diagnostics and generated text

A value that is put into a sentence is written plainly: a text as it is, the
three constants as `None`, `True` and `False`, anything else by its literal. In
a literal a text stands between single quotes, between double quotes if it has
single ones only, and characters without a picture are given by number.
-/

namespace ApiTypings

open Number Text

/-- Reals in diagnostics: as in JSON but for the values that are no numbers. -/
def Json.plainNumbers : Layout := { Json.numbers with nan := "nan", infinity := "inf" }

namespace Json

/-- A number as hexadecimal digits of at least the given width. -/
def hexPadded (width n : Nat) : List Char := padLeft width (Nat.toDigits 16 n)

/-- One character of a literal between `mark`s. -/
def literalChar (mark c : Char) : List Char :=
  if c = mark ∨ c = '\\' then ['\\', c]
  else if c = '\n' then ['\\', 'n']
  else if c = '\r' then ['\\', 'r']
  else if c = '\t' then ['\\', 't']
  else if isPrintable c then [c]
  else if c.toNat < 0x100 then '\\' :: 'x' :: hexPadded 2 c.toNat
  else if c.toNat < 0x10000 then '\\' :: 'u' :: hexPadded 4 c.toNat
  else '\\' :: 'U' :: hexPadded 8 c.toNat

def literalText (s : String) : String :=
  let mark := if hasChar '\'' s && !hasChar '"' s then '"' else '\''
  String.ofList (mark :: s.toList.flatMap (literalChar mark) ++ [mark])

mutual

def literal : Json → String
  | .null => "None"
  | .bool b => if b then "True" else "False"
  | .int n => toString n
  | .real x => plainNumbers.text x
  | .string s => literalText s
  | .array items => "[" ++ join ", " (literalItems items) ++ "]"
  | .object members => "\x7b" ++ join ", " (literalMembers members) ++ "\x7d"

def literalItems : List Json → List String
  | [] => []
  | item :: items => literal item :: literalItems items

def literalMembers : List (String × Json) → List String
  | [] => []
  | (name, value) :: members =>
    (literalText name ++ ": " ++ literal value) :: literalMembers members

end

/-- A value inside a sentence. -/
def plain : Json → String
  | .string s => s
  | j => j.literal

end Json

end ApiTypings
