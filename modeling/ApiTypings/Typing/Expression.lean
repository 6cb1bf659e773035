import ApiTypings.Module.Basic
import ApiTypings.Naming.Location
import ApiTypings.Typing.Table

/-!
# Type expressions

The type that a value schema has in the source. A reference becomes the name of
its definition, which is imported if another module declares it, or the type
that replaces it; lists and maps become `Array<…>` and `{[name: string]: …}`.
A replacement that is no text is passed on as it is.
-/

namespace ApiTypings

def scalarType? (type : String) : Option String :=
  if type = "string" then some "string"
  else if type = "number" then some "number"
  else if type = "boolean" then some "boolean"
  else if type = "integer" then some "number"
  else none

def listOf (inner : Json) : Json := .string ("Array<" ++ inner.plain ++ ">")

def mapTo (inner : Json) : Json := .string ("\x7b[name: string]: " ++ inner.plain ++ "\x7d")

/-- A module under construction, and the log of what was noticed. -/
structure Draft where
  module : Module Json
  log : Log := []
deriving Repr

abbrev Building (α : Type) := Task Draft α

def importName (path name : String) : Building Unit :=
  modify fun draft => { draft with module := draft.module.importing path name }

/-- What the type of a value depends on. -/
structure Typing where
  document : Document
  naming : Naming
  /-- The types written in place of a reference. -/
  replaced : Json

namespace Typing

def target (t : Typing) (reference : Json) : Except Failure Location := do
  let (name, _) ← t.document.resolve reference
  match ← t.naming.location name with
  | some location => return location
  | none => .error (.generation (.excludedReference ((reference.string?).getD "")))

def referenceType (t : Typing) (reference : Json) : Building Json := do
  let location ← Task.ofExcept (t.target reference)
  match ← Task.ofExcept (Table.entry? t.replaced location.name) with
  | some replacement => return replacement
  | none =>
    importName location.path location.name
    return .string location.name

def typeOf (t : Typing) : Value → Building Json
  | .ref target => t.referenceType target
  | .scalar type =>
    match scalarType? type with
    | some name => return .string name
    | none => throw (.generation (.strangeScalar (.string type)))
  | .oddScalar type =>
    if type.isAtom then throw (.generation (.strangeScalar type)) else throw (.fault .mismatch)
  | .map entries => mapTo <$> t.typeOf entries
  | .array items => listOf <$> t.typeOf items
  | .foreign found => throw (.generation (.strangeNode found))

end Typing

end ApiTypings
