import ApiTypings.Json.Basic
import ApiTypings.Number.Shortest
import ApiTypings.Text.Quoted

/-!
# JSON text

The one-line text of a JSON value: a comma or colon is followed by one space,
objects keep the order of their members, and a number has its shortest digits.
-/

namespace ApiTypings

open Number Text

/-- Reals from 1e-4 up to below 1e16 are written with a point, the rest with an exponent of at
least two digits; the values that are no numbers have names. -/
def Json.numbers : Layout where
  smallest := -4
  largest := 16
  exponentDigits := 2
  nan := "NaN"
  infinity := "Infinity"

namespace Json

mutual

def print (mode : Escaping) : Json → String
  | .null => "null"
  | .bool b => if b then "true" else "false"
  | .int n => toString n
  | .real x => numbers.text x
  | .string s => quoteWith mode s
  | .array items => "[" ++ join ", " (printItems mode items) ++ "]"
  | .object members => "\x7b" ++ join ", " (printMembers mode members) ++ "\x7d"

def printItems (mode : Escaping) : List Json → List String
  | [] => []
  | item :: items => print mode item :: printItems mode items

def printMembers (mode : Escaping) : List (String × Json) → List String
  | [] => []
  | (name, value) :: members =>
    (quoteWith mode name ++ ": " ++ print mode value) :: printMembers mode members

end

/-- The text used in messages and documents: all of it is ASCII. -/
def compact (j : Json) : String := j.print .ascii

end Json

end ApiTypings
