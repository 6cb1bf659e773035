import ApiTypings.Module.Sketch
import ApiTypings.Typing.Building

/-!
# Building into sketches

A declaration can be built under any value as its name and into a sketch of any
path. Where both are texts this is building into a module. The path only counts
when a name is imported: a sketch whose path is no text stands at no location, so
it imports all that its fields refer to.
-/

namespace ApiTypings

namespace Naming

/-- A text that is the path of no location: every path ends in the extension, and without one
has no full stop in it. -/
def nowhere (naming : Naming) : String := if naming.extension.isString "" then "." else ""

/-- The path by which a module tells its own names from those of others. -/
def home (naming : Naming) (path : Json) : String := path.string?.getD naming.nowhere

end Naming

structure SketchDraft where
  sketch : Sketch
  log : Log := []

abbrev Sketching (α : Type) := Task SketchDraft α

namespace Builder

/-- Runs a step of building for a sketch, which takes over what the step imports. -/
def sketching {α : Type} (b : Builder) (step : Building α) : Sketching α := do
  let draft ← get
  let start : Draft := { module := { path := b.naming.home draft.sketch.path }, log := draft.log }
  let (outcome, done) := step.outcome start
  set { sketch := draft.sketch.absorb done.module.imports, log := done.log : SketchDraft }
  Task.ofExcept outcome

def sketchInterface (b : Builder) (name : Json) (definition : Definition) :
    Sketching Sketch.Declaration := do
  match (← get).sketch.path, name, definition.properties with
  | .string _, .string text, _ =>
    return .under name (← b.sketching (b.buildInterface text definition))
  | path, _, none =>
    b.sketching (note (emptyInterface path.plain name.plain))
    return .interface name definition.description []
  | _, _, some properties =>
    let fields ← b.sketching (properties.mapM (b.buildField definition))
    return .interface name definition.description (fields.map .ofField)

def sketchUnion (b : Builder) (name : Json) (definition : Definition) :
    Sketching Sketch.Declaration := do
  match (← get).sketch.path, name with
  | .string _, .string text => return .under name (← b.sketching (b.buildUnion text definition))
  | path, _ =>
    let entry ← Task.ofExcept (Table.entryOfValue? b.redefined name)
    match ← Task.ofExcept (typesOfEntry entry definition.type) with
    | [] => throw (.generation (.untyped path.plain name.plain definition.type))
    | types => return .union name definition.description types

def sketch (b : Builder) (name : Json) (definition : Definition) :
    Sketching Sketch.Declaration :=
  if definition.isObject then b.sketchInterface name definition
  else b.sketchUnion name definition

end Builder

end ApiTypings
