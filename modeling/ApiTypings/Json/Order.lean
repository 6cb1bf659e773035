import ApiTypings.Failure

/-!
# The order of values

Values that are sorted need not be texts. Numbers are compared by value, texts by
the numbers of their characters and lists item by item; no other two values can
be compared, and a collection that holds two such values cannot be sorted.
-/

namespace ApiTypings

open Number (Real64)

namespace Json

mutual

/-- Whether two values are equal: numbers by value, objects whatever the order of their members. -/
def equals : Json → Json → Bool
  | .array xs, .array ys => equalItems xs ys
  | .object ms, .object ns => ms.length == ns.length && equalMembers ms ns
  | a, b => a.sameKey b

def equalItems : List Json → List Json → Bool
  | [], [] => true
  | x :: xs, y :: ys => equals x y && equalItems xs ys
  | _, _ => false

/-- Whether every member of a list has an equal one in another. -/
def equalMembers : List (String × Json) → List (String × Json) → Bool
  | [], _ => true
  | (name, x) :: rest, others =>
    (match member? name others with
      | some y => equals x y
      | none => false) && equalMembers rest others

end

def fraction : Int ⊕ Real64 → Int × Nat
  | .inl n => (n, 1)
  | .inr (.finite negative mantissa exponent) =>
    let (num, den) := Real64.scaled mantissa 1 (-exponent)
    (if negative then -(num : Int) else num, den)
  | .inr _ => (0, 1)

def isLess : Int ⊕ Real64 → Int ⊕ Real64 → Bool
  | .inr .nan, _ | _, .inr .nan => false
  | .inr (.infinite a), .inr (.infinite b) => a && !b
  | .inr (.infinite a), _ => a
  | _, .inr (.infinite b) => !b
  | a, b => (fraction a).1 * (fraction b).2 < (fraction b).1 * (fraction a).2

mutual

/-- Whether a value comes before another, if the two can be compared. -/
def before? : Json → Json → Option Bool
  | .string a, .string b => some (a < b)
  | .array xs, .array ys => itemsBefore? xs ys
  | a, b =>
    match a.number?, b.number? with
    | some x, some y => some (isLess x y)
    | _, _ => none

/-- Whether a list comes before another: by the first items that differ, else the shorter one. -/
def itemsBefore? : List Json → List Json → Option Bool
  | [], ys => some !ys.isEmpty
  | _ :: _, [] => some false
  | x :: xs, y :: ys => if equals x y then itemsBefore? xs ys else before? x y

end

/-- Whether a relation holds of every two entries of a list, the earlier one first. -/
def allPairs {α : Type} (holds : α → α → Bool) : List α → Bool
  | [] => true
  | x :: xs => xs.all (holds x) && allPairs holds xs

/-- The entries of a list in their order, if every two of them can be compared. -/
def sortWith {α : Type} (before? : α → α → Option Bool) (entries : List α) :
    Except Failure (List α) :=
  if allPairs (fun a b => (before? a b).isSome) entries then
    .ok (entries.mergeSort fun a b => before? b a != some true)
  else faulty .mismatch

/-- Whether an entry comes before another: by their values, and by what stands beside them where
the values are equal. -/
def entryBefore? {α : Type} (beside? : α → α → Option Bool) (a b : Json × α) : Option Bool :=
  if a.1.equals b.1 then beside? a.2 b.2 else before? a.1 b.1

def sortValues (values : List Json) : Except Failure (List Json) := sortWith before? values

end Json

end ApiTypings
