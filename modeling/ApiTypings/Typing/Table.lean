import ApiTypings.Json.Order
import ApiTypings.Schema.Document

/-!
# Tables from the settings

The settings hold tables of replaced and redefined types, and what stands there
need not be a table. Asking whether a name is listed works for objects, lists
and texts; an entry can only be had from an object.
-/

namespace ApiTypings.Table

/-- Whether a name is listed: as a member, as an item, or as part of a text. -/
def lists (table : Json) (name : String) : Except Failure Bool :=
  match table with
  | .object members => .ok (member? name members).isSome
  | .array items => .ok (items.any (·.isString name))
  | .string text => .ok (Text.occursIn name.toList text.toList)
  | _ => faulty .mismatch

def entry (table : Json) (name : String) : Except Failure Json :=
  match table with
  | .object members =>
    match member? name members with
    | some found => .ok found
    | none => faulty .noKey
  | _ => faulty .mismatch

def entry? (table : Json) (name : String) : Except Failure (Option Json) := do
  if ← lists table name then return some (← entry table name) else return none

/-- The entry of a value that should be a name. An object lists only texts, but can be asked for
any atom; a list can be asked for any value, and its entries are had by number. -/
def entryOfValue? (table name : Json) : Except Failure (Option Json) :=
  match table, name with
  | .object members, .string name => .ok (member? name members)
  | .object _, _ => if name.isAtom then .ok none else faulty .mismatch
  | .array items, _ =>
    if !items.any (·.equals name) then .ok none
    else match name with
      | .int n => itemAt items n
      | .bool b => itemAt items (if b then 1 else 0)
      | _ => faulty .mismatch
  | _, .string name => entry? table name
  | _, _ => faulty .mismatch
where
  /-- The item at a place; a negative one counts from the end. -/
  itemAt (items : List Json) (n : Int) : Except Failure (Option Json) :=
    let place := if n < 0 then n + items.length else n
    match (if 0 ≤ place then items[place.toNat]? else none) with
    | some found => .ok (some found)
    | none => faulty .noIndex

end ApiTypings.Table
