import ApiTypings.Module.Rendering
import ApiTypings.Typing.Building

/-!
# Generating a project

Every definition that has a location and is not replaced is declared at its
location, in the order of the qualified names. Modules come into being with
their first declaration, and the project is rendered module by module.
-/

namespace ApiTypings

/-- A definition together with where it is declared. -/
structure Located where
  qualifiedName : String
  location : Location
  definition : Definition
deriving Repr

structure Work where
  project : Project := {}
  log : Log := []
deriving Repr

abbrev Generating (α : Type) := Task Work α

structure Generator where
  settings : Settings
  document : Document

namespace Generator

/-- The generator of a document that was read. The tables of types are asked for first. -/
def ofDocument (settings : Settings) (document : Document) : Except Failure Generator := do
  settings.require "replaced_types"
  settings.require "redefined_types"
  return { settings, document }

/-- The generator of a schema. Definitions without a location are never declared, so their
properties are not read. -/
def ofSchema (settings : Settings) (schema : Json) : Except Failure Generator := do
  settings.require "namespace_prefixes"
  let document ← Document.read settings.naming.hasLocation schema
  ofDocument settings document

def ofWholeSchema (settings : Settings) (schema : Json) : Except Failure Generator := do
  let document ← Document.read Document.all schema
  settings.require "namespace_prefixes"
  ofDocument settings document

def note (level : Level) (text : String) : Generating Unit :=
  modify fun work => { work with log := work.log ++ [⟨level, text⟩] }

def ordered (g : Generator) : List (String × Definition) :=
  g.document.definitions.mergeSort fun a b => !decide (b.1 < a.1)

/-- Decides whether a definition is declared, and where. -/
def place (g : Generator) (name : String) (definition : Definition) :
    Generating (Option Located) := do
  match ← Task.ofExcept (g.settings.naming.location name) with
  | none =>
    note .debug ("Skipping " ++ name ++ ": no known namespace prefix")
    return none
  | some location =>
    match ← Task.ofExcept (Table.entry? g.settings.replacedTypes location.name) with
    | some replacement =>
      note .debug ("Skipping " ++ name ++ ": replaced by " ++ replacement.plain)
      return none
    | none => return some { qualifiedName := name, location, definition }

/-- The definitions that are declared, in order. -/
def definitions (g : Generator) : Generating (List Located) := do
  let placed ← g.ordered.mapM fun (name, definition) => g.place name definition
  return placed.filterMap id

/-- Runs a step of building on the module of a path. What the step did to the module and the
log stays, also when it fails. -/
def inModule {α : Type} (path : String) (step : Building α) : Generating α := do
  let work ← get
  let (outcome, draft) := step.outcome { module := work.project.moduleAt path, log := work.log }
  set { project := work.project.store draft.module, log := draft.log : Work }
  Task.ofExcept outcome

def declare (g : Generator) (located : Located) : Generating Unit :=
  inModule located.location.path do
    let declaration ←
      (g.settings.builder g.document).build located.location.name located.definition
    modify fun draft => { draft with module := draft.module.declare declaration }

def declarationCount (project : Project) : Nat :=
  (project.modules.flatMap (·.declarations)).length

def generate (g : Generator) : Generating Project := do
  (← g.definitions).forM g.declare
  let project := (← get).project
  note .debug ("Generated " ++ toString (declarationCount project) ++ " declarations in " ++
    toString project.size ++ " files")
  return project

/-- The path and the text of every module, in the order of the paths. -/
def renderAll (project : Project) : Except Failure (List (String × String)) :=
  project.sorted.mapM fun m => return (m.path, ← m.renderText)

def render (g : Generator) : Generating (List (String × String)) := do
  Task.ofExcept (renderAll (← g.generate))

end Generator

end ApiTypings
