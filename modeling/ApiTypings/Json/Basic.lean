import ApiTypings.Number.Real64

/-!
# JSON values

A schema and a configuration are JSON, and what they hold need not have the
type the program hopes for. So the values travel as they were read, with the
members of an object in the order of the text, and each user looks at what it
needs.
-/

namespace ApiTypings

open Number (Real64)

/-- A JSON value. The members of an object keep their order and have distinct names. -/
inductive Json
  | null
  | bool (value : Bool)
  | int (value : Int)
  | real (value : Real64)
  | string (value : String)
  | array (items : List Json)
  | object (members : List (String × Json))
deriving Repr, Inhabited

/-- What an object says about the member `name`. -/
def member? (name : String) : List (String × α) → Option α
  | [] => none
  | (key, value) :: rest => if key = name then some value else member? name rest

/-- Writes one entry of an ordered table: an entry that is there keeps its place. -/
def setMember (name : String) (value : α) : List (String × α) → List (String × α)
  | [] => [(name, value)]
  | (key, old) :: rest =>
    if key = name then (key, value) :: rest else (key, old) :: setMember name value rest

/-- The table in which the last entry of a name counts, at the place of its first. -/
def distinctMembers (entries : List (String × α)) : List (String × α) :=
  entries.foldl (fun table (name, value) => setMember name value table) []

theorem member?_setMember_self (name : String) (value : α) (table : List (String × α)) :
    member? name (setMember name value table) = some value := by
  induction table with
  | nil => simp [setMember, member?]
  | cons entry rest ih =>
    by_cases h : entry.1 = name <;> simp [setMember, member?, h, ih]

theorem member?_setMember_of_ne {name other : String} (h : other ≠ name) (value : α)
    (table : List (String × α)) :
    member? other (setMember name value table) = member? other table := by
  induction table with
  | nil => simp [setMember, member?, Ne.symm h]
  | cons entry rest ih =>
    obtain ⟨key, old⟩ := entry
    by_cases hk : key = name
    · simp [setMember, member?, hk, Ne.symm h]
    · simp [setMember, member?, hk, ih]

namespace Json

/-- The member `name` of an object; nothing for any other value. -/
def get? (j : Json) (name : String) : Option Json :=
  match j with
  | .object members => member? name members
  | _ => none

/-- A value that stands for "not given": null, false, zero, and the empty text, list and object. -/
def isVoid : Json → Bool
  | .null => true
  | .bool b => !b
  | .int n => n == 0
  | .real x => x.isZero
  | .string s => s.isEmpty
  | .array items => items.isEmpty
  | .object members => members.isEmpty

def string? : Json → Option String
  | .string s => some s
  | _ => none

/-- The parts of a value that has parts: the items of a list, the characters of a text, the
member names of an object. -/
def parts? : Json → Option (List Json)
  | .array items => some items
  | .string s => some (s.toList.map fun c => .string (String.singleton c))
  | .object members => some (members.map fun (name, _) => .string name)
  | _ => none

/-- Whether a value can be looked up in a table: only one without parts of its own can. -/
def isAtom : Json → Bool
  | .array _ | .object _ => false
  | _ => true

/-- The number a value counts as; a truth value counts as one or zero. -/
def number? : Json → Option (Int ⊕ Real64)
  | .bool b => some (.inl (if b then 1 else 0))
  | .int n => some (.inl n)
  | .real x => some (match x.toInt? with | some n => .inl n | none => .inr x)
  | _ => none

/-- Whether two atoms are the same table key. Numbers are compared by value, whatever their
form. -/
def sameKey (a b : Json) : Bool :=
  match a, b with
  | .null, .null => true
  | .string s, .string t => s == t
  | _, _ =>
    match a.number?, b.number? with
    | some x, some y => x == y
    | _, _ => false

mutual

def same : Json → Json → Bool
  | .null, .null => true
  | .bool a, .bool b => a == b
  | .int a, .int b => a == b
  | .real a, .real b => a == b
  | .string a, .string b => a == b
  | .array a, .array b => sameItems a b
  | .object a, .object b => sameMembers a b
  | _, _ => false

def sameItems : List Json → List Json → Bool
  | [], [] => true
  | a :: as, b :: bs => same a b && sameItems as bs
  | _, _ => false

def sameMembers : List (String × Json) → List (String × Json) → Bool
  | [], [] => true
  | (m, a) :: as, (n, b) :: bs => m == n && same a b && sameMembers as bs
  | _, _ => false

end

mutual

theorem same_iff : (a b : Json) → (same a b = true ↔ a = b)
  | .null, b => by cases b <;> simp [same]
  | .bool _, b => by cases b <;> simp [same]
  | .int _, b => by cases b <;> simp [same]
  | .real _, b => by cases b <;> simp [same]
  | .string _, b => by cases b <;> simp [same]
  | .array as, b => by cases b <;> simp [same, sameItems_iff as]
  | .object as, b => by cases b <;> simp [same, sameMembers_iff as]

theorem sameItems_iff : (as bs : List Json) → (sameItems as bs = true ↔ as = bs)
  | [], bs => by cases bs <;> simp [sameItems]
  | a :: as, bs => by cases bs <;> simp [sameItems, same_iff a, sameItems_iff as]

theorem sameMembers_iff : (as bs : List (String × Json)) → (sameMembers as bs = true ↔ as = bs)
  | [], bs => by cases bs <;> simp [sameMembers]
  | (m, a) :: as, bs => by
    cases bs <;> simp [sameMembers, same_iff a, sameMembers_iff as, Prod.ext_iff, and_assoc]

end

instance : DecidableEq Json := fun a b => decidable_of_iff _ (same_iff a b)

def isString (j : Json) (s : String) : Bool :=
  match j with
  | .string t => t == s
  | _ => false

end Json

end ApiTypings
