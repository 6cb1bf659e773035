import ApiTypings.Schema.Value

/-!
# Schema documents

A document names itself and holds type definitions. `Document.read` reads one
from JSON, definition by definition in the order of the document, and stops at
the first mistake. The properties of a definition that is not asked for are left
unread, so that nothing in them can be one.
-/

namespace ApiTypings

structure Property where
  value : Value
  description : Json
deriving Repr

/-- The group, version and kind under which an object is served. -/
structure GroupVersionKind where
  group : Json
  version : Json
  kind : Json
deriving Repr

/-- A type definition. The members that are only passed on are kept as they were found. -/
structure Definition where
  description : Json
  type : Json
  required : List Json
  /-- None when the definition has no properties, or when they were left unread. -/
  properties : Option (List (String × Property))
  served : List GroupVersionKind
deriving Repr

def Definition.isObject (d : Definition) : Bool := d.type.isString "object"

/-- Whether a property of this name has to be present. -/
def Definition.requires (d : Definition) (name : String) : Bool :=
  d.required.any (·.isString name)

structure Document where
  title : Json
  version : Json
  definitions : List (String × Definition)
deriving Repr

def Json.members (j : Json) : Except Failure (List (String × Json)) :=
  match j with
  | .object members => .ok members
  | _ => faulty .noMember

/-- The parts of a value, none for one that is void. -/
def Json.partsOrNone (j : Json) : Except Failure (List Json) :=
  if j.isVoid then .ok []
  else match j.parts? with
    | some parts => .ok parts
    | none => faulty .mismatch

def Property.read (path : String) (raw : Json) : Except Failure Property := do
  let value ← Value.read path raw
  return { value, description := (raw.get? "description").getD .null }

def GroupVersionKind.read (raw : Json) : Except Failure GroupVersionKind := do
  let members ← raw.members
  let part (name : String) : Json := (member? name members).getD (.string "")
  return { group := part "group", version := part "version", kind := part "kind" }

/-- The member under which a definition says how its objects are served. -/
def servedMember : String := "x-kubernetes-group-version-kind"

def Definition.readProperties (path : String) (raw : Json) :
    Except Failure (List (String × Property)) := do
  let members ← raw.members
  members.mapM fun (name, property) =>
    return (name, ← Property.read (path ++ "/properties/" ++ name) property)

/-- Reads a definition, without its properties if it is not `wanted`. -/
def Definition.read (path : String) (wanted : Bool) (raw : Json) : Except Failure Definition :=
  match raw with
  | .object members => do
    let member (name : String) : Json := (member? name members).getD .null
    let properties ← match member "properties" with
      | .null => pure none
      | found => if wanted then some <$> readProperties path found else pure none
    let served ← (← (member servedMember).partsOrNone).mapM GroupVersionKind.read
    let required ← (member "required").partsOrNone
    return { description := member "description", type := member "type", required, properties,
             served }
  | found => .error (.generation (.schema (.notDefinition path found)))

def referencePrefix : String := "#/definitions/"

/-- Reads the definitions one after the other. `wanted` decides by name whether the properties
are read, and may fail to decide. -/
def Document.readDefinitions (wanted : String → Except Failure Bool) :
    List (String × Json) → Except Failure (List (String × Definition))
  | [] => .ok []
  | (name, raw) :: rest => do
    let definition ← Definition.read (referencePrefix ++ name) (← wanted name) raw
    return (name, definition) :: (← readDefinitions wanted rest)

def Document.read (wanted : String → Except Failure Bool) (raw : Json) :
    Except Failure Document := do
  match raw.get? "definitions" with
  | some (.object members) =>
    let info := (raw.get? "info").getD .null
    let info ← if info.isVoid then pure [] else info.members
    let label (name : String) : Json := (member? name info).getD (.string "")
    let definitions ← readDefinitions wanted members
    return { title := label "title", version := label "version", definitions }
  | _ => .error (.generation (.schema .noDefinitions))

def Document.all : String → Except Failure Bool := fun _ => .ok true

/-- Definitions are wanted whose names begin with one of the given texts. The texts are looked at
one after the other; what is no text cannot be compared with a name. -/
def Document.beginningWith (starts : List Json) (name : String) : Except Failure Bool :=
  match starts with
  | [] => .ok false
  | .string start :: rest =>
    if Text.startsWith start name then .ok true else beginningWith rest name
  | _ :: _ => faulty .mismatch

/-- Follows a reference: the name of the definition it points to, and the definition. -/
def Document.resolve (document : Document) (target : Json) :
    Except Failure (String × Definition) :=
  match target with
  | .string reference =>
    match Text.afterPrefix? referencePrefix reference with
    | none => .error (.generation (.foreignReference reference))
    | some name =>
      match member? name document.definitions with
      | some definition => .ok (name, definition)
      | none => .error (.generation (.danglingReference name document.title document.version))
  | _ => faulty .noMember

end ApiTypings
