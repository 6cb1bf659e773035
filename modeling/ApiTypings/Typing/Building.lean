import ApiTypings.Settings
import ApiTypings.Typing.Expression

/-!
# Building declarations

Every definition becomes one declaration. An object becomes an interface with a
field for each property; the fields `apiVersion` and `kind` of a definition that
is served under exactly one group, version and kind have just that value.
Anything else becomes a union: the types it is redefined as, or its own type.
-/

namespace ApiTypings

/-- The texts among the values that are given; any other value that is given is a fault. -/
def givenTexts : List Json → Except Failure (List String)
  | [] => .ok []
  | .string text :: rest =>
    if text.isEmpty then givenTexts rest else (givenTexts rest).map (text :: ·)
  | found :: rest => if found.isVoid then givenTexts rest else faulty .mismatch

/-- The type of the properties `apiVersion` and `kind` of a definition that is served in one way
only: the one text they can hold. -/
def literalType (served : List GroupVersionKind) (property : String) :
    Except Failure (Option String) :=
  match served with
  | [one] =>
    if property = "apiVersion" then do
      return some (Text.quote (Text.join "/" (← givenTexts [one.group, one.version])))
    else if property = "kind" then .ok (some (one.kind.print .needed))
    else .ok none
  | _ => .ok none

/-- What building declarations depends on. -/
structure Builder extends Typing where
  /-- The types of definitions that are no objects. -/
  redefined : Json

namespace Builder

def note (record : LogRecord) : Building Unit :=
  modify fun draft => { draft with log := draft.log ++ [record] }

def buildField (b : Builder) (definition : Definition) (entry : String × Property) :
    Building (Field Json) := do
  let (name, property) := entry
  let type ← match ← Task.ofExcept (literalType definition.served name) with
    | some text => pure (.string text)
    | none => b.typeOf property.value
  return { name, description := property.description, type,
           optional := !definition.requires name }

def emptyInterface (path name : String) : LogRecord :=
  ⟨.warning, path ++ ": interface " ++ name ++ " has no properties"⟩

/-- The interface of a definition. One without properties is empty, and that is noted. -/
def buildInterface (b : Builder) (name : String) (definition : Definition) :
    Building (Declaration Json) := do
  match definition.properties with
  | none =>
    note (emptyInterface (← get).module.path name)
    return .interface name definition.description []
  | some properties =>
    return .interface name definition.description
      (← properties.mapM (b.buildField definition))

/-- The type a definition names: a scalar type as in the source, any other value as it is. -/
def ownTypes (type : Json) : Except Failure (List Json) :=
  if type.isVoid then .ok []
  else match type with
    | .string name => .ok [.string ((scalarType? name).getD name)]
    | .array _ | .object _ => faulty .mismatch
    | found => .ok [found]

/-- The types that an entry of the table of redefined types stands for; without one those that the
definition names. -/
def typesOfEntry (entry : Option Json) (type : Json) : Except Failure (List Json) :=
  match entry with
  | some found =>
    match found.parts? with
    | some types => .ok types
    | none => faulty .mismatch
  | none => ownTypes type

def unionTypes (b : Builder) (name : String) (type : Json) : Except Failure (List Json) := do
  typesOfEntry (← Table.entry? b.redefined name) type

def buildUnion (b : Builder) (name : String) (definition : Definition) :
    Building (Declaration Json) := do
  match ← Task.ofExcept (b.unionTypes name definition.type) with
  | [] =>
    let path := (← get).module.path
    throw (.generation (.untyped path name definition.type))
  | types => return .union name definition.description types

def build (b : Builder) (name : String) (definition : Definition) :
    Building (Declaration Json) :=
  if definition.isObject then b.buildInterface name definition
  else b.buildUnion name definition

end Builder

def Settings.builder (settings : Settings) (document : Document) : Builder where
  document
  naming := settings.naming
  replaced := settings.replacedTypes
  redefined := settings.redefinedTypes

end ApiTypings
