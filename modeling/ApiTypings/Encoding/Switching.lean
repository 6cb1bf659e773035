import ApiTypings.Encoding.Chinese
import ApiTypings.Encoding.Japanese
import ApiTypings.Encoding.Korean
import ApiTypings.Encoding.Lead
import ApiTypings.Encoding.Page

/-!
# Encodings that switch between sets

With octets of seven bits only, East Asian text has to switch between sets of
characters. Escape sequences say which set is the usual one, which one can be
shifted to, and which one single characters are taken from.
-/

namespace ApiTypings.Encoding

namespace CharacterSet

def width : CharacterSet → Nat
  | .ascii | .westLatin | .greek | .roman | .katakana => 1
  | _ => 2

def pair? (set : CharacterSet) (a b : Nat) : Option (List Char) :=
  let row := a - 0x20
  let place := b - 0x21
  if b < 0x21 then none
  else match set with
    | .kanji | .firstKanji => (kanjiGrid.at? row place).map ([·])
    | .kanjiSupplement => (supplementGrid.at? row place).map ([·])
    | .hangul => (hangulGrid.at? row place).map ([·])
    | .hanzi => (nationalOf? (a + 0x80) (b + 0x80)).map ([·])
    | .firstPlane => Edition.first.firstPlaneAt? row place
    | .completedPlane => Edition.complete.firstPlaneAt? row place
    | .secondPlane => (Edition.complete.secondPlaneAt? row place).map ([·])
    | _ => none

/-- What an octet of seven bits stands for in a set of single octets. -/
def single? (set : CharacterSet) (a : Nat) : Option (List Char) :=
  match set with
  | .ascii => (ascii? a).map ([·])
  | .roman => (roman? a).map ([·])
  | .katakana => (halfKana? (a + 0x80)).map ([·])
  | _ => none

def lead (set : CharacterSet) (mode : Mode) (octets : List Nat) : Lead :=
  match octets with
  | [] => .cut
  | a :: rest =>
    if set.width == 1 then
      match set.single? a with
      | some chars => .text chars 1 mode
      | none => .illegal 1
    else match rest with
      | [] => .cut
      | b :: _ =>
        match set.pair? a b with
        | some chars => .text chars 2 mode
        | none => .illegal 2

end CharacterSet

structure Switching where
  /-- The sets it can switch to, other than ASCII. -/
  sets : List CharacterSet
  /-- Whether there are octets to shift with. -/
  shifts : Bool
  /-- Whether there is a set for single characters. -/
  hasSingles : Bool
  /-- Whether the basic Japanese set may be announced in its second edition. -/
  hasEditions : Bool

/-- The set that the end of an escape sequence names. -/
def setOf? (wide : Bool) (final : Char) : Option CharacterSet :=
  if wide then
    match final with
    | '@' => some .firstKanji
    | 'A' => some .hanzi
    | 'B' => some .kanji
    | 'C' => some .hangul
    | 'D' => some .kanjiSupplement
    | 'O' => some .firstPlane
    | 'P' => some .secondPlane
    | 'Q' => some .completedPlane
    | _ => none
  else
    match final with
    | 'A' => some .westLatin
    | 'B' => some .ascii
    | 'F' => some .greek
    | 'I' => some .katakana
    | 'J' => some .roman
    | _ => none

/-- A letter or a commercial at ends an escape sequence. -/
def endsEscape (octet : Nat) : Bool := 0x40 ≤ octet && octet ≤ 0x5A

/-- The length of the escape sequence that octets begin with: zero if it does not end within
sixteen octets, none if the octets end first. With editions, an ampersand and a commercial at are
passed over together. -/
def escapeLength? (editions : Bool) : (fuel : Nat) → (place : Nat) → List Nat → Option Nat
  | 0, _, _ => some 0
  | fuel + 1, place, octets =>
    if 16 ≤ place then some 0
    else match octets.drop place with
      | [] => none
      | a :: rest =>
        if endsEscape a then some (place + 1)
        else if editions && a == 0x26 && rest.head? == some 0x40 then
          escapeLength? editions fuel (place + 3) octets
        else escapeLength? editions fuel (place + 1) octets

/-- Which set an escape sequence switches, and to what. -/
inductive Switch
  | usual (set : CharacterSet)
  | other (set : CharacterSet)
  | single (set : CharacterSet)

namespace Switching

/-- The switch that an escape sequence asks for, if it is one of the encoding. -/
def switch? (encoding : Switching) (escape : List Nat) : Option Switch := do
  let known (wide : Bool) (final : Nat) : Option CharacterSet :=
    (setOf? wide (Char.ofNat final)).filter fun set =>
      set == .ascii || encoding.sets.contains set
  match escape.drop 1 with
  | [0x24, final] => return .usual (← known true final)
  | [0x28, final] => return .usual (← known false final)
  | [0x29, final] => return .other (← known false final)
  | [0x2E, final] => if encoding.hasSingles then return .single (← known false final) else none
  | [0x24, 0x28, final] => return .usual (← known true final)
  | [0x24, 0x29, final] => return .other (← known true final)
  | [_, _, 0x1B, 0x24, 0x42] => if encoding.hasEditions then return .usual .kanji else none
  | _ => none

def singleOf? (set : CharacterSet) (octet : Nat) : Option Char :=
  match set with
  | .westLatin => if octet < 0x80 then some (Char.ofNat (octet + 0x80)) else none
  | .greek => (pages.lookup "iso8859_7").bind fun page =>
      if octet < 0x80 then page.at? (octet + 0x80) else none
  | .ascii => ascii? octet
  | _ => none

/-- Reads after an escape that may begin a sequence. -/
def escape (encoding : Switching) (mode : Mode) (octets : List Nat) : Lead :=
  match octets.drop 1 with
  | [] => .cut
  | b :: rest =>
    if [0x28, 0x29, 0x24, 0x2E, 0x26].contains b then
      match escapeLength? encoding.hasEditions 16 1 octets with
      | none => .cut
      | some 0 => .illegal 1
      | some length =>
        match encoding.switch? (octets.take length) with
        | some (.usual set) => .text [] length { mode with usual := set }
        | some (.other set) => .text [] length { mode with other := set }
        | some (.single set) => .text [] length { mode with single := set }
        | none => .illegal length
    else if encoding.hasSingles && b == 0x4E then
      match rest with
      | [] => .cut
      | c :: _ =>
        match singleOf? mode.single c with
        | some char => .text [char] 3 mode
        | none => .illegal 3
    else .text ['\x1b'] 1 { mode with verbatim := true }

/-- Reads octets of seven bits. Control characters stand for themselves in all sets, and a line feed
ends a shift. -/
def reader (encoding : Switching) : Reader
  | _, [] => .cut
  | mode, octets@(a :: _) =>
    if mode.verbatim then
      .text [Char.ofNat a] 1 { mode with verbatim := !endsEscape a }
    else if a == 0x1B then encoding.escape mode octets
    else if encoding.shifts && a == 0x0F then .text [] 1 { mode with shifted := false }
    else if encoding.shifts && a == 0x0E then .text [] 1 { mode with shifted := true }
    else if a == 0x0A then .text ['\n'] 1 { mode with shifted := false }
    else if a < 0x20 then .text [Char.ofNat a] 1 mode
    else if 0x80 ≤ a then .illegal 1
    else (if mode.shifted then mode.other else mode.usual).lead mode octets

end Switching

/-- The Korean set can be shifted to. -/
def switchingHangul : Switching := ⟨[.hangul], true, false, false⟩

/-- The Japanese encodings that switch, which differ in their sets. -/
def switchingKanji (sets : List CharacterSet) : Switching := ⟨sets, false, false, true⟩

/-- The encoding that switches between the sets of many languages. -/
def switchingMany : Switching := ⟨[.kanji, .kanjiSupplement, .hangul, .hanzi, .roman, .firstKanji,
  .westLatin, .greek], false, true, true⟩

/-- Simplified Chinese characters between braces that a tilde marks. The set for them is the usual
one as long as the braces are open. -/
def bracedHanzi : Reader
  | _, [] => .cut
  | mode, a :: rest =>
    let isOpen := mode.usual == .hanzi
    if a == 0x7E then
      match rest with
      | [] => .cut
      | b :: _ =>
        if b == 0x7E && !isOpen then .text ['~'] 2 mode
        else if b == 0x7B && !isOpen then .text [] 2 { mode with usual := .hanzi }
        else if b == 0x0A && !isOpen then .text [] 2 mode
        else if b == 0x7D && isOpen then .text [] 2 { mode with usual := .ascii }
        else .illegal 1
    else if 0x80 ≤ a then .illegal 1
    else if !isOpen then .text [Char.ofNat a] 1 mode
    else match rest with
      | [] => .cut
      | b :: _ =>
        match CharacterSet.hanzi.pair? a b with
        | some chars => .text chars 2 mode
        | none => .illegal 1

end ApiTypings.Encoding
