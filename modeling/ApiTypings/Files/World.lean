import ApiTypings.Files.Tree

/-!
# The world of a run

What a run can see and change: the files, the log and the requests it has made.
-/

namespace ApiTypings

structure Request where
  url : String
  timeout : Json
deriving DecidableEq, Repr

structure World where
  /-- The directory at which relative paths start. -/
  home : Position
  tree : FileTree
  log : Log := []
  requests : List Request := []

abbrev Action (α : Type) := Task World α

namespace World

/-- The names that lead along a path from the root. -/
def trail (w : World) (p : Path) : List String :=
  if p.isAbsolute then p.names else w.home ++ p.names

end World

def report (level : Level) (text : String) : Action Unit :=
  modify fun w => { w with log := w.log ++ [⟨level, text⟩] }

def ofFileSystem {α : Type} : Except FileFault α → Action α
  | .ok a => pure a
  | .error fault => throw (.fault (.file fault))

def changeTree (change : FileTree → Except FileFault FileTree) : Action Unit := do
  let tree ← ofFileSystem (change (← get).tree)
  modify fun w => { w with tree }

/-- Makes a directory that is not there yet, and all that lead to it as far as they are
missing. -/
def makeNewDirectory (path : Path) : Action Unit := do
  let w ← get
  let names := w.trail path
  match w.tree.makeDirectory names with
  | .ok tree => set { w with tree }
  | .error .missing =>
    let (outcome, tree) := w.tree.makeDirectories names.dropLast names.length
    set { w with tree }
    ofFileSystem outcome
    changeTree (·.makeDirectory names)
  | .error fault => throw (.fault (.file fault))

end ApiTypings
