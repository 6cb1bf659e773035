import ApiTypings.Text.Quoted

/-!
# Texts as octets

Decoding of octets to text in the encodings of Unicode. It is strict, so that
octets that are no text are noticed; for those that have to be shown all the same
there is a reading of UTF-8 that replaces what is no part of a character.
-/

namespace ApiTypings.Text

/-- The octets of a text in UTF-8. There always are some, since no text has half a surrogate pair in
it, which UTF-8 does not have. -/
def toOctets (s : String) : ByteArray := s.toUTF8

/-- The text of octets in UTF-8. -/
def ofOctets? (octets : ByteArray) : Option String := String.fromUTF8? octets

inductive ByteOrder
  | little
  | big
deriving DecidableEq, Repr

inductive Encoding
  | utf8
  | utf16 (order : ByteOrder)
  | utf32 (order : ByteOrder)
deriving DecidableEq, Repr

/-- The 16-bit units of octets, if their number is even. -/
def pairs? (order : ByteOrder) : List Nat → Option (List Nat)
  | [] => some []
  | a :: b :: rest =>
    let unit := match order with
      | .little => a + 256 * b
      | .big => 256 * a + b
    (pairs? order rest).map (unit :: ·)
  | [_] => none

/-- The characters of 16-bit units, if all surrogates come in pairs. -/
def ofUnits16? : List Nat → Option (List Char)
  | [] => some []
  | [unit] =>
    if isHighSurrogate unit || isLowSurrogate unit then none else some [Char.ofNat unit]
  | high :: low :: rest =>
    if isHighSurrogate high then
      if isLowSurrogate low then (ofUnits16? rest).map (pairChar high low :: ·) else none
    else if isLowSurrogate high then none
    else (ofUnits16? (low :: rest)).map (Char.ofNat high :: ·)

/-- The characters of 32-bit units in octets, if all are characters. -/
def ofUnits32? (order : ByteOrder) : List Nat → Option (List Char)
  | [] => some []
  | a :: b :: c :: d :: rest =>
    let n := match order with
      | .little => a + 256 * b + 65536 * c + 16777216 * d
      | .big => 16777216 * a + 65536 * b + 256 * c + d
    if n.isValidChar then (ofUnits32? order rest).map (Char.ofNat n :: ·) else none
  | _ => none

def decode? (encoding : Encoding) (octets : List Nat) : Option String :=
  match encoding with
  | .utf8 => ofOctets? ⟨(octets.map UInt8.ofNat).toArray⟩
  | .utf16 order => ((pairs? order octets).bind ofUnits16?).map String.ofList
  | .utf32 order => (ofUnits32? order octets).map String.ofList

/-- The length of the character that octets of UTF-8 begin with; an octet that begins none is
taken by itself. -/
def characterLength (octets : List Nat) : Option Nat :=
  [1, 2, 3, 4].find? fun n => n ≤ octets.length && (decode? .utf8 (octets.take n)).isSome

/-- The text of octets in UTF-8 with a replacement character for each octet that is no part of a
character. -/
def decodeLossy : (fuel : Nat) → List Nat → List Char
  | 0, _ => []
  | _, [] => []
  | fuel + 1, octets =>
    match characterLength octets with
    | some n =>
      ((decode? .utf8 (octets.take n)).getD "").toList ++ decodeLossy fuel (octets.drop n)
    | none => '\uFFFD' :: decodeLossy fuel (octets.drop 1)

/-- A text with every line end as a line feed. -/
def unifyLineEnds : List Char → List Char
  | '\r' :: '\n' :: rest => '\n' :: unifyLineEnds rest
  | '\r' :: rest => '\n' :: unifyLineEnds rest
  | c :: rest => c :: unifyLineEnds rest
  | [] => []

end ApiTypings.Text
