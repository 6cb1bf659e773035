/-!
# Binary fractions of 64 bits

The numbers of the 64-bit binary format as exact values: a sign, a mantissa
below 2^53 and a power of two not below 2^-1074. `ofDecimal` rounds a decimal
fraction to the nearest of them, a tie going to the even mantissa.
-/

namespace ApiTypings.Number

/-- A number of the 64-bit binary format; a finite one is `mantissa * 2 ^ exponent`. -/
inductive Real64
  | nan
  | infinite (negative : Bool)
  | finite (negative : Bool) (mantissa : Nat) (exponent : Int)
deriving DecidableEq, Repr

namespace Real64

def leastExponent : Int := -1074

def greatestExponent : Int := 971

def zero (negative : Bool) : Real64 := finite negative 0 leastExponent

def isZero : Real64 → Bool
  | finite _ mantissa _ => mantissa == 0
  | _ => false

/-- The integer nearest to `num / den`, the even one of two. -/
def roundHalfEven (num den : Nat) : Nat :=
  let quotient := num / den
  let twice := 2 * (num % den)
  if twice < den then quotient
  else if den < twice then quotient + 1
  else if quotient % 2 = 0 then quotient else quotient + 1

/-- The fraction `num / den` divided by a power of two. -/
def scaled (num den : Nat) (exponent : Int) : Nat × Nat :=
  if 0 ≤ exponent then (num, den * Nat.pow 2 exponent.toNat)
  else (num * Nat.pow 2 (-exponent).toNat, den)

/-- The number of the format nearest to the positive fraction `num / den`. The exponent is
chosen so that the mantissa fills its 53 bits, or is the least one. -/
def ofFraction (negative : Bool) (num den : Nat) : Real64 :=
  let guess : Int := max ((num.log2 : Int) - den.log2 - 53) leastExponent
  let (n, d) := scaled num den guess
  let exponent := if n < d * Nat.pow 2 53 then guess else guess + 1
  let (n, d) := scaled num den exponent
  let mantissa := roundHalfEven n d
  let (mantissa, exponent) :=
    if mantissa = Nat.pow 2 53 then (Nat.pow 2 52, exponent + 1) else (mantissa, exponent)
  if greatestExponent < exponent then infinite negative else finite negative mantissa exponent

def decimalLength (n : Nat) : Nat := (Nat.toDigits 10 n).length

/-- The number of the format nearest to `digits * 10 ^ power`. What is certainly too large or
too small is settled by the length of the number alone. -/
def ofDecimal (negative : Bool) (digits : Nat) (power : Int) : Real64 :=
  if digits = 0 then zero negative
  else if 310 < decimalLength digits + power then infinite negative
  else if decimalLength digits + power < -330 then zero negative
  else if 0 ≤ power then ofFraction negative (digits * Nat.pow 10 power.toNat) 1
  else ofFraction negative digits (Nat.pow 10 (-power).toNat)

def toInt? : Real64 → Option Int
  | finite negative mantissa exponent =>
    let (num, den) := scaled mantissa 1 (-exponent)
    if num % den = 0 then
      let n : Int := num / den
      some (if negative then -n else n)
    else none
  | _ => none

end Real64

end ApiTypings.Number
