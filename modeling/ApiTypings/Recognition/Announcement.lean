import ApiTypings.Encoding.Charset
import ApiTypings.Encoding.Names

/-!
# Announced encodings

Octets can say themselves which encoding they are in: by a mark at their beginning,
or by words such as those with which markup announces it.
-/

namespace ApiTypings.Recognition

open Text Encoding

/-- A mark that octets can begin with, and the encoding it stands for. -/
structure Mark where
  octets : List Nat
  /-- The name that goes with the mark. -/
  name : String
  charset : Charset
  /-- What the mark itself leaves in the text. -/
  trace : List Char := []

def marks : List Mark := [
  ⟨[0xEF, 0xBB, 0xBF], "utf_8", ⟨"utf_8", .spread shortUnits⟩, []⟩,
  ⟨[0x84, 0x31, 0x95, 0x33], "gb18030", ⟨"gb18030", .spread fullHanzi⟩, ['\uFEFF']⟩,
  ⟨[0x00, 0x00, 0xFE, 0xFF], "utf_32", ⟨"utf_32", .spread (longUnits .big)⟩, []⟩,
  ⟨[0xFF, 0xFE, 0x00, 0x00], "utf_32", ⟨"utf_32", .spread (longUnits .little)⟩, []⟩,
  ⟨[0xFE, 0xFF], "utf_16", ⟨"utf_16", .spread (middleUnits .big)⟩, []⟩,
  ⟨[0xFF, 0xFE], "utf_16", ⟨"utf_16", .spread (middleUnits .little)⟩, []⟩]

def mark? (octets : List Nat) : Option Mark := marks.find? (·.octets.isPrefixOf octets)

def announcingWords : List (List Char) := ["encoding".toList, "charset".toList, "coding".toList]

/-- What follows a word in any case, if a text begins with it. -/
def afterWord? (word text : List Char) : Option (List Char) :=
  if (text.take word.length).map Char.toLower == word then some (text.drop word.length) else none

def isNameChar (c : Char) : Bool := c.isAlphanum || c == '-' || c == '_'

/-- The name that a text begins by announcing, and what follows it: a word, up to ten colons, equals
signs or blanks, maybe a quote, and the name. -/
def announcement? (text : List Char) : Option (List Char × List Char) := do
  let rest ← announcingWords.findSome? (afterWord? · text)
  let isSeparator (c : Char) : Bool := c == ':' || c == '=' || c == ' '
  let separators := (rest.takeWhile isSeparator).length
  guard (1 ≤ separators && separators ≤ 10)
  let rest := rest.drop separators
  let rest := if rest.head?.any fun c => c == '"' || c == '\x27' then rest.drop 1 else rest
  let name := rest.takeWhile isNameChar
  guard (!name.isEmpty)
  return (name, rest.drop name.length)

def announcedNames : (fuel : Nat) → List Char → List (List Char)
  | 0, _ => []
  | _, [] => []
  | fuel + 1, text =>
    match announcement? text with
    | some (name, rest) => name :: announcedNames fuel rest
    | none => announcedNames fuel (text.drop 1)

/-- The usual name of the encoding that octets announce in their first 8192, only those of ASCII
being looked at. -/
def announced? (octets : List Nat) : Option String :=
  let text := ((octets.take 8192).filter (· < 0x80)).map Char.ofNat
  (announcedNames text.length text).findSome? fun name =>
    usualName? (String.ofList (name.map fun c => if c == '-' then '_' else c.toLower))

end ApiTypings.Recognition
