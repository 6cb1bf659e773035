import ApiTypings.Encoding.Grid
import ApiTypings.Encoding.Kanji
import ApiTypings.Encoding.KanjiExtension
import ApiTypings.Encoding.KanjiSupplement
import ApiTypings.Encoding.KanjiVendor
import ApiTypings.Encoding.Lead

/-!
# Japanese encodings

There are two ways to write a place in the grid of Japanese characters with two
octets. One takes the row and the column as they are, above 160. The other one has
the half-width syllables as single octets and squeezes two rows under each of the
octets that are left. Either way exists for the basic set and for the extended one.
-/

namespace ApiTypings.Encoding

def kanjiGrid : Grid := .ofRows kanjiRows

def supplementGrid : Grid := .ofRows kanjiSupplementRows

def firstPlaneGrid : Grid := .ofRows firstPlaneRows

def secondPlaneGrid : Grid := .ofRows secondPlaneRows

/-- What a vendor adds to the basic set or has otherwise. -/
def vendorGrid : Grid := .ofRows vendorRows

inductive Edition
  | first
  | complete
deriving DecidableEq, Repr

/-- The places of the first plane that only the complete edition has. -/
def lateAdditions : List (Nat × Nat) := [
  (14, 0), (15, 93), (47, 51), (47, 93), (84, 6), (94, 89), (94, 90), (94, 91), (94, 92), (94, 93)]

/-- What stands in a place of the first plane. -/
def Edition.firstPlaneAt? (edition : Edition) (row place : Nat) : Option (List Char) :=
  if edition == .first && lateAdditions.contains (row, place) then none
  else match kanjiGrid.at? row place, firstPlaneGrid.at? row place with
    | some c, _ | none, some c => some [c]
    | none, none =>
      (firstPlanePairs.find? fun (r, p, _) => r == row && p == place).map (·.2.2.toList)

/-- What stands in a place of the second plane. In one place the editions differ. -/
def Edition.secondPlaneAt? (edition : Edition) (row place : Nat) : Option Char :=
  if edition == .first && row == 93 && place == 26 then some '鬝'
  else secondPlaneGrid.at? row place

def halfKana? (octet : Nat) : Option Char :=
  if 0xA1 ≤ octet && octet ≤ 0xDF then some (Char.ofNat (0xFEC0 + octet)) else none

def ascii? (octet : Nat) : Option Char :=
  if octet < 0x80 then some (Char.ofNat octet) else none

/-- The Japanese variant of ASCII has a currency sign and a line above for two of its marks. -/
def roman? (octet : Nat) : Option Char :=
  if octet == 0x5C then some '¥' else if octet == 0x7E then some '‾' else ascii? octet

/-- The row and the place in it that two octets above 160 stand for. -/
def gridPlace? (a b : Nat) : Option (Nat × Nat) :=
  if 0xA1 ≤ a && 0xA1 ≤ b then some (a - 0xA0, b - 0xA1) else none

/-- The row and the place in it that two squeezed octets stand for. -/
def squeezedPlace? (a b : Nat) : Option (Nat × Nat) :=
  if b < 0x40 || b == 0x7F || 0xFC < b then none
  else
    let pair := if a < 0xE0 then a - 0x81 else a - 0xC1
    let place := if b < 0x7F then b - 0x40 else b - 0x41
    some (2 * pair + place / 94 + 1, place % 94)

/-- Two octets that stand for a place of the first plane. Where only the complete edition has a
character, the first one passes over both octets. -/
def Edition.firstPlaneLead (edition : Edition) (row place : Nat) : Lead :=
  match edition.firstPlaneAt? row place with
  | some chars => .text chars 2 {}
  | none => .illegal (if lateAdditions.contains (row, place) then 2 else 1)

/-- Reads squeezed octets: single ones, and two for a place in the grid. -/
def squeezed (single : Nat → Option Char) (double : Nat → Nat → Lead) : Reader
  | _, [] => .cut
  | _, a :: rest =>
    match single a with
    | some c => .char c 1
    | none =>
      if a < 0x81 || a == 0xA0 || 0xFC < a then .illegal 1
      else match rest with
        | [] => .cut
        | b :: _ =>
          match squeezedPlace? a b with
          | some (row, place) => double row place
          | none => .illegal 1

def squeezedKanji : Reader :=
  squeezed (fun octet => ascii? octet <|> halfKana? octet) fun row place =>
    .ofOption 2 (kanjiGrid.at? row place)

/-- The basic set and that of a vendor in squeezed octets; twenty rows are for private use. -/
def vendorSqueezed : Reader :=
  squeezed
    (fun octet =>
      if octet ≤ 0x80 then some (Char.ofNat octet)
      else if octet == 0xA0 then some '\uF8F0'
      else if 0xFD ≤ octet then some (Char.ofNat (0xF7F4 + octet))
      else halfKana? octet)
    fun row place =>
      if 95 ≤ row && row ≤ 114 then .char (Char.ofNat (0xE000 + 94 * (row - 95) + place)) 2
      else .ofOption 2 (vendorGrid.at? row place <|> kanjiGrid.at? row place)

/-- The rows of the second plane in the order in which squeezed octets go on to them. -/
def squeezedRows : List Nat := [1, 8, 3, 4, 5] ++ (List.range' 12 4) ++ (List.range' 78 17)

def squeezedExtension (edition : Edition) : Reader :=
  squeezed (fun octet => roman? octet <|> halfKana? octet) fun row place =>
    if row ≤ 94 then
      if row == 1 && place == 31 then .char '\\' 2 else edition.firstPlaneLead row place
    else .ofOption 2 ((squeezedRows[row - 95]?).bind (edition.secondPlaneAt? · place))

/-- Reads octets above 160: two for a place in the grid, and with an octet before them one of the
half-width syllables or a place in another grid. -/
def aboveAscii (double : Nat → Nat → Lead) (further : Nat → Nat → Option Char) : Reader
  | _, [] => .cut
  | _, [a] => if a < 0x80 then .char (Char.ofNat a) 1 else .cut
  | _, a :: b :: rest =>
    if a < 0x80 then .char (Char.ofNat a) 1
    else if a == 0x8E then .ofOption 2 (halfKana? b)
    else if a == 0x8F then
      match rest with
      | [] => .cut
      | c :: _ => .ofOption 3 ((gridPlace? b c).bind fun (row, place) => further row place)
    else match gridPlace? a b with
      | some (row, place) => double row place
      | none => .illegal 1

def plainKanji : Reader :=
  aboveAscii (fun row place => .ofOption 2 (kanjiGrid.at? row place)) supplementGrid.at?

/-- The extended set, and the supplementary one where it leaves places free. The tilde is a wide
one. -/
def plainExtension (edition : Edition) : Reader :=
  aboveAscii
    (fun row place =>
      if row == 2 && place == 17 then .char '～' 2 else edition.firstPlaneLead row place)
    fun row place => edition.secondPlaneAt? row place <|> supplementGrid.at? row place

end ApiTypings.Encoding
