import ApiTypings.Json.Order
import ApiTypings.Module.Rendering

/-!
# Modules put together by hand

A module that is put together by hand can have any value where a path or a name
should be. A value that is no text does harm only where it is used: what cannot
be a key of a table fails at once, what cannot be sorted fails when the sketch is
shown, and what is no path fails when an import is written.
-/

namespace ApiTypings

namespace Sketch

structure Field where
  name : Json
  description : Json
  type : Json
  optional : Json
deriving Repr

inductive Declaration
  | interface (name description : Json) (fields : List Sketch.Field)
  | union (name description : Json) (types : List Json)
  /-- A field that stands by itself. -/
  | field (field : Sketch.Field)
  /-- Something that is no declaration. -/
  | foreign (found : Json)
deriving Repr

/-- A field whose name is a text. -/
def Field.settle (field : Sketch.Field) : Except Failure (ApiTypings.Field Json) :=
  match field.name with
  | .string name => .ok {
      name, description := field.description, type := field.type
      optional := !field.optional.isVoid }
  | _ => faulty .mismatch

/-- A declaration as it is written. Only the name of a field has to be a text; that of a
declaration is put into a sentence. -/
def Declaration.settle : Sketch.Declaration → Except Failure (ApiTypings.Declaration Json)
  | .interface name description fields => do
    return .interface name.plain description (← fields.mapM Field.settle)
  | .union name description types => .ok (.union name.plain description types)
  | .field f => .field <$> f.settle
  | .foreign found => .ok (.foreign found)

def Declaration.name? : Sketch.Declaration → Option Json
  | .interface name _ _ => some name
  | .union name _ _ => some name
  | .field f => some f.name
  | .foreign _ => none

def Declaration.render (declaration : Sketch.Declaration) : Except Failure (List String) := do
  (← declaration.settle).render

def Field.ofField (field : ApiTypings.Field Json) : Sketch.Field where
  name := .string field.name
  description := field.description
  type := field.type
  optional := .bool field.optional

/-- A declaration as a sketch, under a name of any kind. -/
def Declaration.under (name : Json) : ApiTypings.Declaration Json → Sketch.Declaration
  | .interface _ description fields => .interface name description (fields.map Field.ofField)
  | .union _ description types => .union name description types
  | .field f => .field (Field.ofField f)
  | .foreign found => .foreign found

end Sketch

structure Sketch where
  path : Json
  imports : List (Json × List Json) := []
  declarations : List Sketch.Declaration := []
deriving Repr

namespace Sketch

/-- The table with an entry for a path. -/
def openEntry (path : Json) : List (Json × List Json) → List (Json × List Json)
  | [] => [(path, [])]
  | (p, names) :: rest =>
    if p.sameKey path then (p, names) :: rest else (p, names) :: openEntry path rest

/-- The table with a name in the entry for a path. -/
def insertName (path name : Json) : List (Json × List Json) → List (Json × List Json)
  | [] => []
  | (p, names) :: rest =>
    if p.sameKey path then
      (p, if names.any (·.sameKey name) then names else names ++ [name]) :: rest
    else (p, names) :: insertName path name rest

/-- Imports a name; a module imports nothing from itself. A path that cannot be a key is refused
before the table has an entry for it, a name afterwards. -/
def importName (path name : Json) : Task Sketch Unit := do
  let sketch ← get
  if !path.equals sketch.path then
    if !path.isAtom then throw (.fault .mismatch)
    let opened := openEntry path sketch.imports
    set { sketch with imports := opened }
    if !name.isAtom then throw (.fault .mismatch)
    set { sketch with imports := insertName path name opened }

def declare (sketch : Sketch) (declaration : Sketch.Declaration) : Sketch :=
  { sketch with declarations := sketch.declarations ++ [declaration] }

def absorb (imports : Imports) (sketch : Sketch) : Sketch :=
  let add (path : String) (table : List (Json × List Json)) (name : String) :=
    insertName (.string path) (.string name) (openEntry (.string path) table)
  { sketch with
    imports := imports.foldl (fun table (path, names) => names.foldl (add path) table)
      sketch.imports }

def sortedImports (sketch : Sketch) : Except Failure (List (Json × List Json)) := do
  let entries ← sketch.imports.mapM fun (path, names) => return (path, ← Json.sortValues names)
  Json.sortWith (Json.entryBefore? Json.itemsBefore?) entries

def importLines (sketch : Sketch) : Except Failure (List String) := do
  let entries ← sketch.imports.mapM fun (path, names) => do
    let specifier ← Specifier.ofValues sketch.path path
    return (Json.string specifier, ← Json.sortValues names)
  let entries ← Json.sortWith (Json.entryBefore? Json.itemsBefore?) entries
  return entries.map fun (specifier, names) => importLine specifier.plain (names.map Json.plain)

def named (declaration : Sketch.Declaration) : Except Failure (Json × List String) :=
  match declaration.name? with
  | none => faulty .noMember
  | some name => do return (name, ← declaration.render)

def bodyLines (sketch : Sketch) : Except Failure (List String) := do
  let named ← sketch.declarations.mapM named
  let ordered ← Json.sortWith (Json.entryBefore? fun a b => some (a < b)) named
  return joinMembers "" (ordered.map Prod.snd)

def render (sketch : Sketch) : Except Failure (List String) := do
  let imports ← sketch.importLines
  let body ← sketch.bodyLines
  return flattenLines (imports ++ (if imports.isEmpty then [] else [""]) ++ body)

def renderText (sketch : Sketch) : Except Failure String := do
  return String.join ((← sketch.render).map (· ++ "\n"))

end Sketch

/-- The sketches of a project in the order in which they came into being. -/
structure Sketchbook where
  sketches : List Sketch := []
deriving Repr

namespace Sketchbook

/-- The sketch of a path, a new one if there is none. A value that cannot be a key has none. -/
def sketchAt (book : Sketchbook) (path : Json) : Except Failure Sketch :=
  if path.isAtom then
    .ok ((book.sketches.find? (·.path.sameKey path)).getD { path })
  else faulty .mismatch

/-- Puts a sketch into a list in place of the one of its path, at the end if there is none. -/
def put (sketch : Sketch) : List Sketch → List Sketch
  | [] => [sketch]
  | other :: rest =>
    if other.path.sameKey sketch.path then sketch :: rest else other :: put sketch rest

def store (book : Sketchbook) (sketch : Sketch) : Sketchbook := ⟨put sketch book.sketches⟩

def sorted (book : Sketchbook) : Except Failure (List Sketch) :=
  Json.sortWith (fun a b => Json.before? a.path b.path) book.sketches

def size (book : Sketchbook) : Nat := book.sketches.length

end Sketchbook

end ApiTypings
