import ApiTypings.Module.Declaration

/-!
# Modules and projects

A module has a path, imports names from other modules and holds declarations in
the order in which they were added. A project is a table of modules by path; a
module comes into being when it is first asked for.
-/

namespace ApiTypings

/-- The names imported from each module, tables and names in the order of the first import. -/
abbrev Imports := List (String × List String)

namespace Imports

def insert (path name : String) : Imports → Imports
  | [] => [(path, [name])]
  | (p, names) :: rest =>
    if p = path then (p, if name ∈ names then names else names ++ [name]) :: rest
    else (p, names) :: insert path name rest

def names (imports : Imports) (path : String) : List String := (member? path imports).getD []

end Imports

/-- Whether the pair comes no later than the other when pairs are sorted. -/
def pairLe {α : Type} [LT α] [DecidableLT α] (a b : String × α) : Bool :=
  a.1 < b.1 || (a.1 = b.1 && !decide (b.2 < a.2))

/-- Texts in the order of their characters' numbers. -/
def sortTexts (texts : List String) : List String :=
  texts.mergeSort fun a b => !decide (b < a)

/-- Entries in the order of their names, entries of one name in the order of their values. -/
def sortPairs {α : Type} [LT α] [DecidableLT α] (entries : List (String × α)) :
    List (String × α) :=
  entries.mergeSort pairLe

/-- A module, with descriptions and types of some kind `τ`. -/
structure Module (τ : Type) where
  path : String
  imports : Imports := []
  declarations : List (Declaration τ) := []
deriving Repr, DecidableEq

namespace Module

variable {τ : Type}

/-- Imports a name from another module; a module imports nothing from itself. -/
def importing (m : Module τ) (path name : String) : Module τ :=
  if path = m.path then m else { m with imports := m.imports.insert path name }

def declare (m : Module τ) (declaration : Declaration τ) : Module τ :=
  { m with declarations := m.declarations ++ [declaration] }

/-- The imports in the order of the paths, the names of each in their order. -/
def sortedImports (m : Module τ) : List (String × List String) :=
  sortPairs (m.imports.map fun (path, names) => (path, sortTexts names))

@[simp] theorem importing_self (m : Module τ) (name : String) :
    m.importing m.path name = m := by simp [importing]

@[simp] theorem importing_path (m : Module τ) (path name : String) :
    (m.importing path name).path = m.path := by
  unfold importing; split <;> rfl

@[simp] theorem importing_declarations (m : Module τ) (path name : String) :
    (m.importing path name).declarations = m.declarations := by
  unfold importing; split <;> rfl

@[simp] theorem declare_path (m : Module τ) (d : Declaration τ) : (m.declare d).path = m.path := rfl

@[simp] theorem declare_imports (m : Module τ) (d : Declaration τ) :
    (m.declare d).imports = m.imports := rfl

end Module

/-- The modules of a project in the order in which they came into being. -/
structure Project where
  modules : List (Module Json) := []
deriving Repr

namespace Project

def module? (project : Project) (path : String) : Option (Module Json) :=
  project.modules.find? (·.path = path)

/-- The module of a path, a new one if there is none. -/
def moduleAt (project : Project) (path : String) : Module Json :=
  (project.module? path).getD { path }

/-- Puts a module into a list in place of the one of its path, at the end if there is none. -/
def put (m : Module Json) : List (Module Json) → List (Module Json)
  | [] => [m]
  | n :: rest => if n.path = m.path then m :: rest else n :: put m rest

def store (project : Project) (m : Module Json) : Project := ⟨put m project.modules⟩

def sorted (project : Project) : List (Module Json) :=
  project.modules.mergeSort fun m n => !decide (n.path < m.path)

def size (project : Project) : Nat := project.modules.length

end Project

end ApiTypings
