import ApiTypings.Loading
import ApiTypings.Recognition.Reading
import ApiTypings.Text.Encoding

/-!
# Bodies of answers

The encoding of a body is not announced and has to be guessed. The first octets
say most: there is a byte order mark, or else the places of the null octets among
the first four tell how wide a character is, two characters of ASCII being the
least that JSON has. Where that does not work, the likeliest reading of the octets
is taken.
-/

namespace ApiTypings

namespace Body

open Text

/-- The encoding that the first octets suggest, and how many octets its mark takes. -/
def guessEncoding : List Nat → Option (Encoding × Nat)
  | 0xFF :: 0xFE :: 0 :: 0 :: _ => some (.utf32 .little, 4)
  | 0 :: 0 :: 0xFE :: 0xFF :: _ => some (.utf32 .big, 4)
  | 0xEF :: 0xBB :: 0xBF :: _ => some (.utf8, 3)
  | 0xFF :: 0xFE :: _ => some (.utf16 .little, 2)
  | 0xFE :: 0xFF :: _ => some (.utf16 .big, 2)
  | a :: b :: c :: d :: _ =>
    match a == 0, b == 0, c == 0, d == 0 with
    | false, false, false, false => some (.utf8, 0)
    | true, false, true, false => some (.utf16 .big, 0)
    | false, true, false, true => some (.utf16 .little, 0)
    | true, true, true, false => some (.utf32 .big, 0)
    | false, true, true, true => some (.utf32 .little, 0)
    | _, _, _, _ => none
  | _ => none

/-- The text that the first octets of a body lead to. A body of up to three octets is too short
for them to say anything, unless they are a mark. -/
def announced? (octets : List Nat) : Option String :=
  (guessEncoding octets).bind fun (encoding, mark) => decode? encoding (octets.drop mark)

/-- The text of a body whose first octets do not say its encoding: the likeliest one, and if there
is none, what is UTF-8 in it. -/
def likeliest (octets : List Nat) : String :=
  String.ofList ((Recognition.likeliest? octets).getD (decodeLossy octets.length octets))

def text (body : ByteArray) : String :=
  let octets := body.toList.map UInt8.toNat
  (announced? octets).getD (likeliest octets)

end Body

/-- A network whose bodies are read by guessing, where their encoding is not declared. -/
instance : Coe HttpOutcome Network := ⟨fun outcome => ⟨outcome, Body.text⟩⟩

end ApiTypings
