import ApiTypings.Failure
import ApiTypings.Files.Path

/-!
# A tree of files

The state of a file system as seen by one process: directories and files by
their position, which is the list of names from the root. There are no links,
so a position is reached in one way only, but a path may wind: it is followed
name by name, each through a directory that is there, and `..` leads back.

An operation is refused the way a file system does it: a path that can be none
first of all, then the first obstacle on the path. A name may have up to 255
octets and a path, with a slash for each name, up to 4095.
-/

namespace ApiTypings

inductive Node
  | directory
  | file (content : ByteArray)

def Node.same : Node → Node → Bool
  | .directory, .directory => true
  | .file a, .file b => a.data == b.data
  | _, _ => false

/-- The names from the root. -/
abbrev Position := List String

/-- The entries of a file system; the root is a directory and has no entry. -/
structure FileTree where
  entries : List (Position × Node) := []

namespace FileTree

def find (p : Position) : List (Position × Node) → Option Node
  | [] => none
  | (q, node) :: rest => if q = p then some node else find p rest

def node? (t : FileTree) (p : Position) : Option Node :=
  if p = [] then some .directory else find p t.entries

def put (p : Position) (node : Node) : List (Position × Node) → List (Position × Node)
  | [] => [(p, node)]
  | (q, old) :: rest => if q = p then (q, node) :: rest else (q, old) :: put p node rest

def set (t : FileTree) (p : Position) (node : Node) : FileTree := ⟨put p node t.entries⟩

def erase (t : FileTree) (p : Position) : FileTree := ⟨t.entries.filter fun e => e.1 ≠ p⟩

def longestName : Nat := 255

/-- Goes from a directory to one of its entries, or back with `..`. -/
def step (t : FileTree) (here : Position) (name : String) : Except FileFault Position :=
  match t.node? here with
  | none => .error .missing
  | some (.file _) => .error .notDirectory
  | some .directory =>
    if name = ".." then .ok here.dropLast
    else if longestName < Text.octets name then .error .nameTooLong
    else if (t.node? (here ++ [name])).isSome then .ok (here ++ [name])
    else .error .missing

def longestPath : Nat := 4095

/-- Accepts names that can be a path from the root. -/
def checkNames (names : List String) : Except FileFault Unit :=
  if names.any (Text.hasChar '\x00') then .error .illegalName
  else if longestPath < names.foldl (fun length name => length + Text.octets name + 1) 0 then
    .error .nameTooLong
  else .ok ()

def walk (t : FileTree) (start : Position) (names : List String) : Except FileFault Position :=
  names.foldlM t.step start

/-- What stands where the names lead from the root. -/
def stat (t : FileTree) (names : List String) : Except FileFault Node := do
  checkNames names
  match t.node? (← t.walk [] names) with
  | some node => return node
  | none => .error .missing

/-- Whether the names lead somewhere. A name that is too long is an error and no answer. -/
def present (t : FileTree) (names : List String) : Except FileFault Bool :=
  match t.stat names with
  | .ok _ => .ok true
  | .error .nameTooLong => .error .nameTooLong
  | .error _ => .ok false

def isDirectory (t : FileTree) (names : List String) : Bool :=
  match t.stat names with
  | .ok .directory => true
  | _ => false

/-- The directory in which the last of the names is to be looked for. -/
def home (t : FileTree) (names : List String) : Except FileFault Position := do
  checkNames names
  let here ← t.walk [] names.dropLast
  match t.node? here with
  | some .directory => return here
  | some (.file _) => .error .notDirectory
  | none => .error .missing

/-- The position that the last of the names has in its directory, there or not. -/
def target (t : FileTree) (names : List String) : Except FileFault Position := do
  let here ← t.home names
  let name := names.getLastD ""
  if longestName < Text.octets name then .error .nameTooLong
  return here ++ [name]

/-- Makes a directory whose parent is there. -/
def makeDirectory (t : FileTree) (names : List String) : Except FileFault FileTree :=
  match names.getLast? with
  | none => .error .alreadyExists
  | some ".." => do
    let _ ← t.home names
    .error .alreadyExists
  | some _ => do
    let p ← t.target names
    match t.node? p with
    | some _ => .error .alreadyExists
    | none => return t.set p .directory

/-- Makes a directory unless one is there already. -/
def ensureDirectory (t : FileTree) (names : List String) : Except FileFault FileTree :=
  match t.makeDirectory names with
  | .ok t => .ok t
  | .error fault => if t.isDirectory names then .ok t else .error fault

/-- Makes a directory and all that lead to it, as far as they are missing. `count` is the number
of names that may be missing. What was made stays, also when a later step is refused. -/
def makeDirectories (t : FileTree) (names : List String) :
    (count : Nat) → Except FileFault Unit × FileTree
  | 0 =>
    match t.ensureDirectory names with
    | .ok t => (.ok (), t)
    | .error fault => (.error fault, t)
  | count + 1 =>
    match t.makeDirectory names with
    | .ok t => (.ok (), t)
    | .error .missing =>
      match t.makeDirectories names.dropLast count with
      | (.error fault, t) => (.error fault, t)
      | (.ok (), t) =>
        match t.ensureDirectory names with
        | .ok t => (.ok (), t)
        | .error fault => (.error fault, t)
    | .error fault => if t.isDirectory names then (.ok (), t) else (.error fault, t)

/-- Opens a file to be written, which is made if it is missing, and writes it. -/
def writeFile (t : FileTree) (names : List String) (content : ByteArray) :
    Except FileFault FileTree :=
  match names.getLast? with
  | none => .error .isDirectory
  | some ".." => do
    let _ ← t.home names
    .error .isDirectory
  | some _ => do
    let p ← t.target names
    match t.node? p with
    | some .directory => .error .isDirectory
    | _ => return t.set p (.file content)

/-- Moves a file to where the names lead, in place of a file that is there. -/
def moveFile (t : FileTree) (source : Position) (names : List String) :
    Except FileFault FileTree :=
  match names.getLast? with
  | none | some ".." => .error .busy
  | some _ => do
    let p ← t.target names
    match t.node? source, t.node? p with
    | some (.file _), some .directory => .error .isDirectory
    | some node, _ => return (t.erase source).set p node
    | none, _ => .error .missing

def readFile (t : FileTree) (names : List String) : Except FileFault ByteArray := do
  match ← t.stat names with
  | .file content => return content
  | .directory => .error .isDirectory

end FileTree

end ApiTypings
