import ApiTypings.Failure

/-!
# Value schemas

The type of a property: a reference, a scalar, or a list or a map of one value.
`Value.read` reads it from JSON. A `$ref` takes precedence over everything
beside it, and members that play no part are ignored.
-/

namespace ApiTypings

inductive Value
  /-- A reference; what stands under `$ref` is looked at when it is followed. -/
  | ref (target : Json)
  | scalar (type : String)
  | array (items : Value)
  | map (entries : Value)
  /-- A scalar whose type is no text, put there by hand; no schema reads as one. -/
  | oddScalar (type : Json)
  /-- Something else, put there by hand; no schema reads as one. -/
  | foreign (found : Json)
deriving Repr, Inhabited

namespace Value

def scalarTypes : List String := ["string", "integer", "number", "boolean"]

mutual

/-- Reads a value schema. `path` says where in the document it stands. -/
def read (path : String) : Json → Except Failure Value
  | .object members =>
    match member? "$ref" members with
    | some target => .ok (.ref target)
    | none =>
      match (member? "type" members).getD .null with
      | .array _ | .object _ => .error (.fault .mismatch)
      | .string type =>
        if type ∈ scalarTypes then .ok (.scalar type)
        else if type = "array" then
          match readMember "items" (path ++ "/items") members with
          | none => .error (.generation (.schema (.noItems path)))
          | some items => items.map .array
        else if type = "object" then
          match readMember "additionalProperties" (path ++ "/additionalProperties") members with
          | none => .error (.generation (.schema (.noEntries path)))
          | some entries => entries.map .map
        else .error (.generation (.schema (.unknownType path (.string type))))
      | type => .error (.generation (.schema (.unknownType path type)))
  | found => .error (.generation (.schema (.notValue path found)))

/-- Reads the member `name` of an object as a value schema. -/
def readMember (name path : String) : List (String × Json) → Option (Except Failure Value)
  | [] => none
  | (key, found) :: members =>
    if key = name then some (read path found) else readMember name path members

end

theorem readMember_eq (name path : String) (members : List (String × Json)) :
    readMember name path members = (member? name members).map (read path) := by
  induction members with
  | nil => simp [readMember, member?]
  | cons entry rest ih =>
    by_cases h : entry.1 = name <;> simp [readMember, member?, h, ih]

end Value

end ApiTypings
