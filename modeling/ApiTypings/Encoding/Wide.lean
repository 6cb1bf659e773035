import ApiTypings.Encoding.Lead
import ApiTypings.Text.Encoding

/-!
# The encodings of Unicode, read one character at a time

For a reading that has to come out even there are the decoders of whole texts. The
readers here also say where a character ends and what is none, so that a piece of a
text can be read that is cut out at any place.
-/

namespace ApiTypings.Encoding

open Text

def shortUnits : Reader
  | _, octets =>
    match characterLength octets with
    | some length => .text ((decode? .utf8 (octets.take length)).getD "").toList length {}
    | none => .illegal 1

def unitOf (order : ByteOrder) (a b : Nat) : Nat :=
  match order with
  | .little => a + 256 * b
  | .big => 256 * a + b

def middleUnits (order : ByteOrder) : Reader
  | _, a :: b :: rest =>
    let unit := unitOf order a b
    if isHighSurrogate unit then
      match rest with
      | c :: d :: _ =>
        let low := unitOf order c d
        if isLowSurrogate low then .char (pairChar unit low) 4 else .illegal 2
      | _ => .cut
    else if isLowSurrogate unit then .illegal 2
    else .char (Char.ofNat unit) 2
  | _, _ => .cut

def longUnits (order : ByteOrder) : Reader
  | _, a :: b :: c :: d :: _ =>
    let (high, low) := match order with
      | .little => (unitOf order c d, unitOf order a b)
      | .big => (unitOf order a b, unitOf order c d)
    let n := 65536 * high + low
    if n.isValidChar then .char (Char.ofNat n) 4 else .illegal 4
  | _, _ => .cut

end ApiTypings.Encoding
