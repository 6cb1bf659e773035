import ApiTypings.Text.Pieces

/-!
# Paths

A path as it is written: where it starts and the names it leads through. Empty
names and `.` say nothing and are left out, `..` is a name like any other until
the path is followed.
-/

namespace ApiTypings

/-- A path: relative if `start` is empty, else absolute with `start` in front. -/
structure Path where
  start : String
  names : List String
deriving DecidableEq, Repr

namespace Path

/-- Reads a path. Two slashes in front, but not more, are kept apart from one. -/
def ofString (s : String) : Path :=
  let names := (Text.split '/' s).filter fun name => name ≠ "" ∧ name ≠ "."
  let start := match s.toList with
    | '/' :: '/' :: '/' :: _ => "/"
    | '/' :: '/' :: _ => "//"
    | '/' :: _ => "/"
    | _ => ""
  { start, names }

/-- The path as text; one that says nothing is the dot. -/
def toString (p : Path) : String :=
  if p.start.isEmpty && p.names.isEmpty then "."
  else p.start ++ Text.join "/" p.names

def isAbsolute (p : Path) : Bool := !p.start.isEmpty

/-- A path followed by another; an absolute one stands for itself. -/
def append (p q : Path) : Path :=
  if q.isAbsolute then q else { p with names := p.names ++ q.names }

instance : HDiv Path String Path := ⟨fun p s => p.append (ofString s)⟩

def parent (p : Path) : Path := { p with names := p.names.dropLast }

def name (p : Path) : String := p.names.getLastD ""

def withName (p : Path) (name : String) : Path :=
  { p with names := p.names.dropLast ++ [name] }

/-- The names of an absolute path with every `..` taking back the name before it. -/
def resolve (names : List String) : List String :=
  names.foldl (fun done name => if name = ".." then done.dropLast else done ++ [name]) []

end Path

end ApiTypings
