import ApiTypings.Number.Real64

/-!
# The shortest decimal text of a number

Of the decimals that read back as a given 64-bit number, `shortest` finds one
with the fewest digits, the nearest of those, the even one of two equally near.
How digits become text is laid down in `Layout`.
-/

namespace ApiTypings.Number

structure Decimal where
  digits : Nat
  power : Int
deriving DecidableEq, Repr

structure Fraction where
  num : Nat
  den : Nat

def Fraction.ofBinary (n : Nat) (exponent : Int) : Fraction :=
  if 0 ≤ exponent then ⟨n * Nat.pow 2 exponent.toNat, 1⟩
  else ⟨n, Nat.pow 2 (-exponent).toNat⟩

def Fraction.ofDecimal (n : Nat) (power : Int) : Fraction :=
  if 0 ≤ power then ⟨n * Nat.pow 10 power.toNat, 1⟩
  else ⟨n, Nat.pow 10 (-power).toNat⟩

def Fraction.lt (a b : Fraction) : Bool := a.num * b.den < b.num * a.den

def Fraction.le (a b : Fraction) : Bool := a.num * b.den ≤ b.num * a.den

/-- The reals that round to a number: the ends, and whether they belong to it. -/
structure Rounding where
  low : Fraction
  high : Fraction
  closed : Bool

/-- The reals that round to `mantissa * 2 ^ exponent`. Below a power of two the neighbour is
half as far away; the ends belong to the number with the even mantissa. -/
def Rounding.of (mantissa : Nat) (exponent : Int) : Rounding where
  low :=
    if mantissa = Nat.pow 2 52 ∧ Real64.leastExponent < exponent then
      .ofBinary (4 * mantissa - 1) (exponent - 2)
    else .ofBinary (2 * mantissa - 1) (exponent - 1)
  high := .ofBinary (2 * mantissa + 1) (exponent - 1)
  closed := mantissa % 2 = 0

def Rounding.contains (r : Rounding) (x : Fraction) : Bool :=
  if r.closed then r.low.le x && x.le r.high else r.low.lt x && x.lt r.high

/-- The grid point `10 ^ power` times some integer that reads back as the number and is nearest
to it, if one of the two neighbours on the grid does. -/
def gridPoint? (value : Fraction) (r : Rounding) (power : Int) : Option Decimal :=
  let unit := Fraction.ofDecimal 1 power
  let below := value.num * unit.den / (value.den * unit.num)
  let lowFits := r.contains (.ofDecimal below power)
  let highFits := r.contains (.ofDecimal (below + 1) power)
  -- twice the value against the middle of the two neighbours
  let twice := 2 * value.num * unit.den
  let middle := (2 * below + 1) * (value.den * unit.num)
  let lowNearer := twice < middle || (twice == middle && below % 2 == 0)
  if lowFits && (lowNearer || !highFits) then some ⟨below, power⟩
  else if highFits then some ⟨below + 1, power⟩
  else none

/-- How many digits stand before the decimal point of a value of at least one; below one, less
one for every zero after the point. -/
def magnitude (value : Fraction) : Int :=
  if value.den ≤ value.num then Real64.decimalLength (value.num / value.den)
  else 1 - (Real64.decimalLength ((value.den - 1) / value.num) : Int)

/-- Tries grids from `count` digits on, at most `tries` of them. -/
def firstGrid (value : Fraction) (r : Rounding) (top : Int) : (tries count : Nat) → Option Decimal
  | 0, _ => none
  | tries + 1, count =>
    match gridPoint? value r (top - count) with
    | some d => some d
    | none => firstGrid value r top tries (count + 1)

/-- Zeros at the end of the digits go into the power. -/
def Decimal.strip (d : Decimal) : (zeros : Nat) → Decimal
  | 0 => d
  | n + 1 => if d.digits ≠ 0 ∧ d.digits % 10 = 0 then strip ⟨d.digits / 10, d.power + 1⟩ n else d

/-- The shortest decimal that reads back as the positive number `mantissa * 2 ^ exponent`;
seventeen digits always suffice. -/
def shortest (mantissa : Nat) (exponent : Int) : Decimal :=
  let value := Fraction.ofBinary mantissa exponent
  let top := magnitude value
  ((firstGrid value (.of mantissa exponent) top 17 1).getD ⟨mantissa, 0⟩).strip 20

/-- How numbers are written: decimals from `10 ^ smallest` up to below `10 ^ largest` with a
point and no exponent, all others with one digit before the point. -/
structure Layout where
  smallest : Int
  largest : Int
  exponentDigits : Nat
  nan : String
  infinity : String

/-- A digit string filled with zeros on the left. -/
def padLeft (width : Nat) (cs : List Char) : List Char :=
  List.replicate (width - cs.length) '0' ++ cs

/-- The digits of a positive decimal laid out. A whole number keeps `.0`, an exponent keeps
its sign. -/
def Layout.decimal (layout : Layout) (d : Decimal) : List Char :=
  let digits := Nat.toDigits 10 d.digits
  let count : Int := digits.length
  let point := count + d.power
  if layout.smallest < point ∧ point ≤ layout.largest then
    if point ≤ 0 then "0.".toList ++ List.replicate (-point).toNat '0' ++ digits
    else if count ≤ point then digits ++ List.replicate (point - count).toNat '0' ++ ".0".toList
    else digits.take point.toNat ++ '.' :: digits.drop point.toNat
  else
    let exponent := point - 1
    let head := digits.take 1
    let tail := digits.drop 1
    let sign := if exponent < 0 then '-' else '+'
    head ++ (if tail.isEmpty then [] else '.' :: tail) ++
      'e' :: sign :: padLeft layout.exponentDigits (Nat.toDigits 10 exponent.natAbs)

def Layout.text (layout : Layout) : Real64 → String
  | .nan => layout.nan
  | .infinite negative => if negative then "-" ++ layout.infinity else layout.infinity
  | .finite negative mantissa exponent =>
    let body := if mantissa = 0 then "0.0".toList else layout.decimal (shortest mantissa exponent)
    String.ofList (if negative then '-' :: body else body)

end ApiTypings.Number
