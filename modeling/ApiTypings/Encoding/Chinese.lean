import ApiTypings.Encoding.Grid
import ApiTypings.Encoding.HongKongHanzi
import ApiTypings.Encoding.Lead
import ApiTypings.Encoding.SimplifiedHanzi
import ApiTypings.Encoding.TraditionalHanzi

/-!
# Chinese encodings

The encodings of simplified characters contain one another: the national set, the
one of a code page, and the one that has all of Unicode with four octets for what
is left. Those of traditional characters share a set, to which vendors and Hong
Kong have additions of their own.
-/

namespace ApiTypings.Encoding

def simplifiedGrid : Grid := .ofRows simplifiedRows

def traditionalGrid : Grid := .ofRows traditionalRows

def hongKongGrid : Grid := .ofRows hongKongRows

/-- The place of a second octet in a row of 190. -/
def longPlace? (b : Nat) : Option Nat :=
  if b < 0x40 || b == 0x7F || 0xFE < b then none
  else some (if b < 0x7F then b - 0x40 else b - 0x41)

def simplifiedOf? (a b : Nat) : Option Char := (longPlace? b).bind (simplifiedGrid.at? a ·)

/-- The places of the national set that it leaves free. -/
def nationalGaps : List (Nat × Nat × Nat) := [
  (0xA2, 0xA1, 0xAA), (0xA6, 0xE0, 0xEB), (0xA6, 0xEE, 0xF2), (0xA6, 0xF4, 0xF5),
  (0xA8, 0xBB, 0xBB), (0xA8, 0xBD, 0xBE), (0xA8, 0xC0, 0xC0)]

/-- The character of the national set that two octets stand for; two marks differ from those of the
code page. -/
def nationalOf? (a b : Nat) : Option Char :=
  if a == 0xA1 && b == 0xA4 then some '・'
  else if a == 0xA1 && b == 0xAA then some '―'
  else if a < 0xA1 || 0xF7 < a || (0xA9 < a && a < 0xB0) || b < 0xA1 then none
  else if nationalGaps.any fun (row, first, last) => a == row && first ≤ b && b ≤ last then none
  else simplifiedOf? a b

/-- Reads ASCII, and two octets for other characters. -/
def twoOctets (double : Nat → Nat → Option Char) : Reader
  | _, [] => .cut
  | _, [a] => if a < 0x80 then .char (Char.ofNat a) 1 else .cut
  | _, a :: b :: _ =>
    if a < 0x80 then .char (Char.ofNat a) 1 else .ofOption 2 (double a b)

def plainHanzi : Reader := twoOctets nationalOf?

def pageHanzi : Reader := twoOctets simplifiedOf?

/-- What is in the places that the code page leaves free: where a run begins, counted in rows of 190
from row 129 on, its first character and its length. Most of them are for private use. -/
def furtherRuns : List (Nat × Nat × Nat) := [
  (6080, 0xE4C6, 96), (6270, 0xE526, 96), (6376, 0xE766, 6), (6432, 0x20AC, 1), (6433, 0xE76D, 1),
  (6444, 0xE76E, 2), (6458, 0xE770, 2), (6460, 0xE586, 96), (6650, 0xE5E6, 96),
  (6829, 0xE772, 11), (6840, 0xE646, 96), (7022, 0xE77D, 8), (7030, 0xE6A6, 96),
  (7150, 0xE785, 8), (7182, 0xE78D, 7), (7201, 0xE794, 2), (7208, 0xE796, 1), (7211, 0xE797, 9),
  (7220, 0xE706, 96), (7349, 0xE7A0, 15), (7397, 0xE7AF, 13), (7495, 0xE7BC, 11),
  (7533, 0xE7C7, 1), (7536, 0x1F9, 1), (7538, 0xE7C9, 4), (7579, 0xE7CD, 21), (7624, 0xE7E2, 1),
  (7627, 0xE7E3, 1), (7629, 0xE7E4, 3), (7672, 0x303E, 1), (7673, 0x2FF0, 12), (7686, 0xE7F4, 13),
  (7775, 0xE801, 15), (7886, 0xE000, 94), (8076, 0xE05E, 94), (8266, 0xE0BC, 94),
  (8456, 0xE11A, 94), (8646, 0xE178, 94), (8836, 0xE1D6, 94), (16525, 0xE810, 5),
  (22706, 0xE234, 94), (22896, 0xE292, 94), (23086, 0xE2F0, 94), (23276, 0xE34E, 94),
  (23466, 0xE3AC, 94), (23656, 0xE40A, 94), (23766, 0x2E81, 1), (23767, 0xE816, 3),
  (23770, 0x2E84, 1), (23771, 0x3473, 1), (23772, 0x3447, 1), (23773, 0x2E88, 1),
  (23774, 0x2E8B, 1), (23775, 0xE81E, 1), (23776, 0x359E, 1), (23777, 0x361A, 1),
  (23778, 0x360E, 1), (23779, 0x2E8C, 1), (23780, 0x2E97, 1), (23781, 0x396E, 1),
  (23782, 0x3918, 1), (23783, 0xE826, 1), (23784, 0x39CF, 1), (23785, 0x39DF, 1),
  (23786, 0x3A73, 1), (23787, 0x39D0, 1), (23788, 0xE82B, 2), (23790, 0x3B4E, 1),
  (23791, 0x3C6E, 1), (23792, 0x3CE0, 1), (23793, 0x2EA7, 1), (23794, 0xE831, 2),
  (23796, 0x2EAA, 1), (23797, 0x4056, 1), (23798, 0x415F, 1), (23799, 0x2EAE, 1),
  (23800, 0x4337, 1), (23801, 0x2EB3, 1), (23802, 0x2EB6, 2), (23804, 0xE83B, 1),
  (23805, 0x43B1, 1), (23806, 0x43AC, 1), (23807, 0x2EBB, 1), (23808, 0x43DD, 1),
  (23809, 0x44D6, 1), (23810, 0x4661, 1), (23811, 0x464C, 1), (23812, 0xE843, 1),
  (23813, 0x4723, 1), (23814, 0x4729, 1), (23815, 0x477C, 1), (23816, 0x478D, 1),
  (23817, 0x2ECA, 1), (23818, 0x4947, 1), (23819, 0x497A, 1), (23820, 0x497D, 1),
  (23821, 0x4982, 2), (23823, 0x4985, 2), (23825, 0x499F, 1), (23826, 0x499B, 1),
  (23827, 0x49B7, 1), (23828, 0x49B6, 1), (23829, 0xE854, 2), (23831, 0x4CA3, 1),
  (23832, 0x4C9F, 3), (23835, 0x4C77, 1), (23836, 0x4CA2, 1), (23837, 0x4D13, 7),
  (23844, 0x4DAE, 1), (23845, 0xE864, 1), (23846, 0xE468, 94)]

/-- The character in a place that the code page leaves free. -/
def further? (a b : Nat) : Option Char := do
  let place ← longPlace? b
  guard (0x81 ≤ a)
  let n := (a - 0x81) * 190 + place
  let (start, first, _) ← furtherRuns.find? fun (start, _, length) =>
    start ≤ n && n < start + length
  return Char.ofNat (first + (n - start))

def twoOctetCharacters : List Char :=
  simplifiedGrid.characters ++ furtherRuns.flatMap fun (_, first, length) =>
    (List.range length).map fun n => Char.ofNat (first + n)

def fourOctetCharacters : Array Char :=
  let shorter := twoOctetCharacters.foldl (fun marks c => marks.setIfInBounds c.toNat true)
    (Array.replicate 0x10000 false)
  ((List.range 0x10000).filter fun n =>
    0x80 ≤ n && n.isValidChar && !shorter.getD n true).toArray.map Char.ofNat

/-- The character of four octets: the first ones number the characters that have no shorter form,
and from the sixteenth row on they number those from U+10000 on. -/
def fourOctetsOf? (a b c d : Nat) : Option Char :=
  if a < 0x81 || 0xFE < a || c < 0x81 || 0xFE < c || d < 0x30 || 0x39 < d then none
  else
    let n := ((a - 0x81) * 10 + (b - 0x30)) * 1260 + (c - 0x81) * 10 + (d - 0x30)
    if a < 0x85 then fourOctetCharacters[n]?
    else if n < 189000 then none
    else
      let code := n - 189000 + 0x10000
      if code ≤ 0x10FFFF then some (Char.ofNat code) else none

/-- The set of the code page, and all of Unicode with up to four octets. -/
def fullHanzi : Reader
  | _, [] => .cut
  | _, [a] => if a < 0x80 then .char (Char.ofNat a) 1 else .cut
  | _, a :: b :: rest =>
    if a < 0x80 then .char (Char.ofNat a) 1
    else if 0x30 ≤ b && b ≤ 0x39 then
      match rest with
      | c :: d :: _ => .ofOption 4 (fourOctetsOf? a b c d)
      | _ => .cut
    else .ofOption 2 (simplifiedOf? a b <|> further? a b)

/-- The place of a second octet in a row of 157. -/
def shortPlace? (b : Nat) : Option Nat :=
  if 0x40 ≤ b && b ≤ 0x7E then some (b - 0x40)
  else if 0xA1 ≤ b && b ≤ 0xFE then some (b - 0xA1 + 63)
  else none

def traditionalOf? (a b : Nat) : Option Char := (shortPlace? b).bind (traditionalGrid.at? a ·)

def plainTraditional : Reader := twoOctets traditionalOf?

/-- The marks that a vendor has otherwise, by their two octets. -/
def vendorMarks : List (Nat × Nat × Char) := [
  (0xA1, 0x45, '‧'), (0xA1, 0x4E, '﹑'), (0xA1, 0xC2, '¯'), (0xA1, 0xE3, '～'), (0xA1, 0xF2, '⊕'),
  (0xA1, 0xF3, '⊙'), (0xA2, 0x41, '∕'), (0xA2, 0x42, '﹨'), (0xA2, 0x44, '￥'), (0xA2, 0x46, '￠'),
  (0xA2, 0x47, '￡'), (0xA3, 0xE1, '€')]

/-- What the same vendor has from place 116 of row 249 on. -/
def vendorRow : List Char := "碁銹裏墻恒粧嫺╔╦╗╠╬╣╚╩╝╒╤╕╞╪╡╘╧╛╓╥╖╟╫╢╙╨╜║═╭╮╰╯▓".toList

/-- The set of traditional characters with the additions of a vendor. -/
def vendorTraditional : Reader := twoOctets fun a b =>
  ((vendorMarks.find? fun (row, trail, _) => a == row && b == trail).map (·.2.2)) <|>
    traditionalOf? a b <|>
    if a == 0xF9 && 0xD6 ≤ b then vendorRow[b - 0xD6]? else none

/-- The letters of Hong Kong that have two accents and no character of their own. -/
def doublyAccented : List (Nat × String) := [
  (0x62, "\u00CA\u0304"), (0x64, "\u00CA\u030C"), (0xA3, "\u00EA\u0304"), (0xA5, "\u00EA\u030C")]

/-- The set of traditional characters with the additions of Hong Kong, which take the places of some
rows of the set. -/
def hongKongTraditional : Reader
  | _, [] => .cut
  | _, [a] => if a < 0x80 then .char (Char.ofNat a) 1 else .cut
  | _, a :: b :: _ =>
    if a < 0x80 then .char (Char.ofNat a) 1
    else
      let replaced := (a == 0xC6 && 0xA1 ≤ b) || a == 0xC7 || a == 0xC8
      let ofSet := if replaced then none else traditionalOf? a b
      match ofSet <|> (shortPlace? b).bind (hongKongGrid.at? a ·), doublyAccented.lookup b with
      | some c, _ => .char c 2
      | none, some pair => if a == 0x88 then .text pair.toList 2 {} else .illegal 1
      | none, none => .illegal 1

end ApiTypings.Encoding
