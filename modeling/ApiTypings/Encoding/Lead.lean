/-!
# Reading octets one character at a time

An encoding is given by what octets begin with: a character, octets that stand for
nothing, or the beginning of a character that is cut off. From that follow the
strict reading of octets, which has to come out even, and the one that passes over
whatever is no character.
-/

namespace ApiTypings.Encoding

/-- The sets of characters that octets of seven bits can be switched to. -/
inductive CharacterSet
  | ascii
  | westLatin
  | greek
  | roman
  | katakana
  | kanji
  /-- The basic set in its first edition, which has the same characters here. -/
  | firstKanji
  | kanjiSupplement
  | hangul
  | hanzi
  /-- The first plane of the extended set, as it was at first. -/
  | firstPlane
  /-- The first plane of the extended set with what was added to it. -/
  | completedPlane
  | secondPlane
deriving DecidableEq, Repr

/-- How octets are to be read, as far as those before them decide it. -/
structure Mode where
  /-- The sets at hand: the usual one, the one to shift to, and the one for single characters. -/
  usual : CharacterSet := .ascii
  other : CharacterSet := .ascii
  single : CharacterSet := .ascii
  /-- Whether the second set has been shifted to. -/
  shifted : Bool := false
  /-- Whether octets stand for themselves until an escape ends. -/
  verbatim : Bool := false
deriving DecidableEq, Repr

inductive Lead
  /-- Characters that take some octets, and how to go on. -/
  | text (chars : List Char) (size : Nat) (mode : Mode)
  /-- Octets that stand for nothing. -/
  | illegal (size : Nat)
  /-- The beginning of a character that is cut off. -/
  | cut
deriving Repr

namespace Lead

def char (c : Char) (size : Nat) : Lead := text [c] size {}

def ofOption (size : Nat) : Option Char → Lead
  | some c => char c size
  | none => illegal 1

end Lead

/-- A way to read octets: what they begin with in a mode. -/
abbrev Reader := Mode → List Nat → Lead

/-- The characters of octets in reverse, put before some that were read already; none if some
octets stand for nothing. -/
def Reader.readOnto? (reader : Reader) :
    (fuel : Nat) → List Char → Mode → List Nat → Option (List Char)
  | _, read, _, [] => some read
  | 0, _, _, _ => none
  | fuel + 1, read, mode, octets =>
    match reader mode octets with
    | .text chars size next => readOnto? reader fuel (chars.reverse ++ read) next (octets.drop size)
    | _ => none

def Reader.read? (reader : Reader) (octets : List Nat) : Option (List Char) :=
  (reader.readOnto? octets.length [] {} octets).map List.reverse

/-- The characters of octets in reverse without those that stand for nothing, put before some that
were read already. -/
def Reader.skimOnto (reader : Reader) : (fuel : Nat) → List Char → Mode → List Nat → List Char
  | _, read, _, [] => read
  | 0, read, _, _ => read
  | fuel + 1, read, mode, octets =>
    match reader mode octets with
    | .text chars size next => skimOnto reader fuel (chars.reverse ++ read) next (octets.drop size)
    | .illegal size => skimOnto reader fuel read mode (octets.drop size)
    | .cut => read

/-- The text of octets without those that stand for nothing. -/
def Reader.skim (reader : Reader) (octets : List Nat) : List Char :=
  (reader.skimOnto octets.length [] {} octets).reverse

end ApiTypings.Encoding
