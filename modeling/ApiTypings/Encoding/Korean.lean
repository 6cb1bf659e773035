import ApiTypings.Encoding.Grid
import ApiTypings.Encoding.Hangul
import ApiTypings.Encoding.Lead

/-!
# Korean encodings

A Korean syllable has a first consonant, a vowel, and maybe a last consonant, and
Unicode numbers all syllables in that order. The Korean set of characters has only
the usual ones. Three encodings reach the others: one spells them out letter by
letter, one puts them in the free places around the set, and one has numbers of
five bits for the letters.
-/

namespace ApiTypings.Encoding

def hangulGrid : Grid := .ofRows hangulRows

def syllableCount : Nat := 19 * 21 * 28

/-- The syllable of a first consonant, a vowel and a last consonant, zero being none of the last. -/
def syllable (first vowel last : Nat) : Char :=
  Char.ofNat (0xAC00 + (first * 21 + vowel) * 28 + last)

/-- The syllables that the Korean set leaves out, in order. -/
def rareSyllables : Array Char :=
  let usual := hangulGrid.characters.foldl
    (fun marks c => if 0xAC00 ≤ c.toNat then marks.setIfInBounds (c.toNat - 0xAC00) true else marks)
    (Array.replicate syllableCount false)
  ((List.range syllableCount).filter fun n => !usual.getD n true).toArray.map fun n =>
    Char.ofNat (0xAC00 + n)

def hangulOf? (a b : Nat) : Option Char :=
  if 0xA1 ≤ a && 0xA1 ≤ b then hangulGrid.at? (a - 0xA0) (b - 0xA1) else none

/-- A syllable that is spelled out: the places of its letters among the consonants and vowels of
the set. -/
def spelled? (first vowel last : Nat) : Option Char := do
  let first ← [0, 1, 3, 6, 7, 8, 16, 17, 18, 20, 21, 22, 23, 24, 25, 26, 27, 28, 29].idxOf? first
  guard (30 ≤ vowel && vowel ≤ 50)
  let last ← if last == 51 then some 0 else
    ([0, 1, 2, 3, 4, 5, 6, 8, 9, 10, 11, 12, 13, 14, 15, 16, 17, 19, 20, 21, 22, 23, 25, 26, 27,
      28, 29].idxOf? last).map (· + 1)
  return syllable first (vowel - 30) last

/-- The Korean set, and syllables that are spelled out after a filler. -/
def plainHangul : Reader
  | _, [] => .cut
  | _, [a] => if a < 0x80 then .char (Char.ofNat a) 1 else .cut
  | _, a :: b :: rest =>
    if a < 0x80 then .char (Char.ofNat a) 1
    else if a == 0xA4 && b == 0xD4 then
      match rest with
      | 0xA4 :: first :: 0xA4 :: vowel :: 0xA4 :: last :: _ =>
        if first < 0xA1 || vowel < 0xA1 || last < 0xA1 then .illegal 1
        else .ofOption 8 (spelled? (first - 0xA1) (vowel - 0xA1) (last - 0xA1))
      | _ => if rest.length < 6 then .cut else .illegal 1
    else .ofOption 2 (hangulOf? a b)

/-- The place of a second octet before those that the Korean set uses; letters and two rows of
others are taken. -/
def outerPlace? (b : Nat) : Option Nat :=
  if 0x41 ≤ b && b ≤ 0x5A then some (b - 0x41)
  else if 0x61 ≤ b && b ≤ 0x7A then some (b - 0x61 + 26)
  else if 0x81 ≤ b && b ≤ 0xFE then some (b - 0x81 + 52)
  else none

/-- The rare syllable that two octets around the Korean set stand for. Before row 161 each row has
178 places, and from there on 84. -/
def rareSyllable? (a b : Nat) : Option Char := do
  let place ← outerPlace? b
  guard (0x81 ≤ a)
  if a < 0xA1 then rareSyllables[178 * (a - 0x81) + place]?
  else
    guard (place < 84)
    rareSyllables[178 * 32 + 84 * (a - 0xA1) + place]?

def fullHangul : Reader
  | _, [] => .cut
  | _, [a] => if a < 0x80 then .char (Char.ofNat a) 1 else .cut
  | _, a :: b :: _ =>
    if a < 0x80 then .char (Char.ofNat a) 1
    else .ofOption 2 (hangulOf? a b <|> rareSyllable? a b)

/-- What a number of five bits stands for: nothing at all, no letter, or a letter by its place in
the order of its kind. -/
inductive Jamo
  | unused
  | filler
  | letter (n : Nat)

def firstJamo (n : Nat) : Jamo :=
  if n == 1 then .filler else if 2 ≤ n && n ≤ 20 then .letter (n - 2) else .unused

def vowelJamo (n : Nat) : Jamo :=
  if n == 2 then .filler
  else if 3 ≤ n && n < 30 && 2 ≤ n % 8 then .letter (n - 3 - 2 * (n / 8)) else .unused

def lastJamo (n : Nat) : Jamo :=
  if n == 1 then .filler
  else if 2 ≤ n && n ≤ 17 then .letter (n - 1)
  else if 19 ≤ n && n ≤ 29 then .letter (n - 2)
  else .unused

def firstConsonants : List Char := "ㄱㄲㄴㄷㄸㄹㅁㅂㅃㅅㅆㅇㅈㅉㅊㅋㅌㅍㅎ".toList

def lastConsonants : List Char := "ㄱㄲㄳㄴㄵㄶㄷㄹㄺㄻㄼㄽㄾㄿㅀㅁㅂㅄㅅㅆㅇㅈㅊㅋㅌㅍㅎ".toList

/-- The syllable or letter of three numbers of five bits. -/
def composed? (first vowel last : Nat) : Option Char :=
  match firstJamo first, vowelJamo vowel, lastJamo last with
  | .letter f, .letter v, .letter l => some (syllable f v l)
  | .letter f, .letter v, .filler => some (syllable f v 0)
  | .letter f, .filler, .filler => firstConsonants[f]?
  | .filler, .letter v, .filler => some (Char.ofNat (0x314F + v))
  | .filler, .filler, .letter l => lastConsonants[l - 1]?
  | .filler, .filler, .filler => some '\u3000'
  | _, _, _ => none

/-- The character of the Korean set that two squeezed octets stand for; letters and syllables are
not among them. -/
def squeezedHangul? (a b : Nat) : Option Char :=
  if a < 0xD9 || a == 0xDF || 0xF9 < a || b < 0x31 || (0x80 ≤ b && b < 0x91) || b % 128 == 127 ||
      (a == 0xDA && 0xA1 ≤ b && b ≤ 0xD3) then none
  else
    let pair := if a < 0xE0 then 2 * (a - 0xD9) else 2 * a - 0x197
    let place := if b < 0x91 then b - 0x31 else b - 0x43
    hangulGrid.at? (pair + place / 94 + 1) (place % 94)

/-- Syllables in numbers of five bits, and what else is in the Korean set. -/
def composedHangul : Reader
  | _, [] => .cut
  | _, [a] => if a < 0x80 then .char (Char.ofNat a) 1 else .cut
  | _, a :: b :: _ =>
    if a < 0x80 then .char (Char.ofNat a) 1
    else if a < 0xD8 then
      .ofOption 2 (composed? (a / 4 % 32) ((a * 8 + b / 32) % 32) (b % 32))
    else .ofOption 2 (squeezedHangul? a b)

end ApiTypings.Encoding
