/-!
# Sets of characters by range

A set of characters is given by the places where it begins and where it ends, in
order: a character is in the set when an odd number of them are not beyond it. The
number is found by halving, so that large sets cost little.
-/

namespace ApiTypings.Text

/-- The number of the bounds that are not beyond `n`, if that is true of those before place `low`
and of none from place `high` on. The bounds are in order. -/
def boundsUpTo (bounds : Array Nat) (n low high : Nat) : Nat :=
  if low < high then
    let middle := low + (high - low) / 2
    if bounds.getD middle 0 ≤ n then boundsUpTo bounds n (middle + 1) high
    else boundsUpTo bounds n low middle
  else low
termination_by high - low

/-- A set of characters, as the places where it begins and ends. -/
structure Ranges where
  bounds : Array Nat
deriving DecidableEq, Repr

namespace Ranges

def contains (ranges : Ranges) (c : Char) : Bool :=
  boundsUpTo ranges.bounds c.toNat 0 ranges.bounds.size % 2 == 1

/-- The set of ranges that are given with both ends, in order and with gaps between them. -/
def ofPairs (pairs : List (Nat × Nat)) : Ranges :=
  ⟨(pairs.flatMap fun (first, last) => [first, last + 1]).toArray⟩

def hexValue (digits : List Char) : Nat :=
  digits.foldl (fun n c => 16 * n + if c.isDigit then c.toNat - 48 else c.toNat - 55) 0

/-- The set that a text lists: ranges in hexadecimal digits, a hyphen between the ends of each and
a blank between one and the next. A number by itself is a range of one. -/
def parse (text : String) : Ranges :=
  ofPairs ((text.splitOn " ").map fun range =>
    match (range.splitOn "-").map fun bound => hexValue bound.toList with
    | [first, last] => (first, last)
    | numbers => (numbers.headD 0, numbers.headD 0))

end Ranges

end ApiTypings.Text
