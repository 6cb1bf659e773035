import ApiTypings.Number.Real64

/-!
# Arithmetic of binary fractions

The operations on numbers of the 64-bit binary format that proportions and their
means need. Each is exact but for one rounding to the nearest number at its end.
-/

namespace ApiTypings.Number.Real64

/-- The value of a number as a fraction; none if it is not finite. -/
def toFraction? : Real64 → Option (Int × Nat)
  | finite negative mantissa exponent =>
    let num : Int := if negative then -mantissa else mantissa
    if mantissa = 0 then some (0, 1)
    else if 0 ≤ exponent then some (num * (Nat.pow 2 exponent.toNat : Nat), 1)
    else some (num, Nat.pow 2 (-exponent).toNat)
  | _ => none

def nearest (num : Int) (den : Nat) : Real64 :=
  if num = 0 then zero false else ofFraction (decide (num < 0)) num.natAbs den

/-- The proportion of two quantities; zero if there is nothing to be a part of. -/
def proportion (part whole : Nat) : Real64 := if whole = 0 then zero false else nearest part whole

def add (x y : Real64) : Real64 :=
  match x.toFraction?, y.toFraction? with
  | some (a, b), some (c, d) =>
    if a = 0 then y else if c = 0 then x else nearest (a * d + c * b) (b * d)
  | _, _ => nan

def negate : Real64 → Real64
  | finite negative mantissa exponent => finite (!negative) mantissa exponent
  | infinite negative => infinite (!negative)
  | nan => nan

def magnitude : Real64 → Real64
  | finite _ mantissa exponent => finite false mantissa exponent
  | infinite _ => infinite false
  | nan => nan

def distance (x y : Real64) : Real64 := (x.add y.negate).magnitude

def times (x : Real64) (n : Nat) : Real64 :=
  match x.toFraction? with
  | some (a, b) => nearest (a * n) b
  | none => nan

def share (x : Real64) (n : Nat) : Real64 :=
  match x.toFraction? with
  | some (a, b) => nearest a (b * n)
  | none => nan

def sum (xs : List Real64) : Real64 := xs.foldl add (zero false)

/-- The mean of numbers; zero for none. -/
def mean (xs : List Real64) : Real64 := if xs.isEmpty then zero false else (sum xs).share xs.length

def less (x y : Real64) : Bool :=
  match x.toFraction?, y.toFraction? with
  | some (a, b), some (c, d) => a * d < c * b
  | _, _ => false

/-- The number nearest to what a number is when only some decimal places are kept, a half going to
the even neighbour. -/
def rounded (x : Real64) (places : Nat) : Real64 :=
  match x.toFraction? with
  | some (a, b) =>
    let kept : Int := roundHalfEven (a.natAbs * Nat.pow 10 places) b
    nearest (if a < 0 then -kept else kept) (Nat.pow 10 places)
  | none => x

def wholePart (x : Real64) : Nat :=
  match x.toFraction? with
  | some (a, b) => a.toNat / b
  | none => 0

end ApiTypings.Number.Real64
