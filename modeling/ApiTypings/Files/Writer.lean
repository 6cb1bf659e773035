import ApiTypings.Files.World
import ApiTypings.Json.Order
import ApiTypings.Module.Basic
import ApiTypings.Settings
import ApiTypings.Text.Blank
import ApiTypings.Text.Encoding

/-!
# Writing files

Rendered texts are written below a directory. What is forbidden or malformed is
found before the first of them is written. A file is written to a temporary file
beside it first, which then takes its place, unless the settings say otherwise.
Every text can be written; only the file system refuses.
-/

namespace ApiTypings

open Text

def isCommentLine (line : List Char) : Bool :=
  let line := trimStart line
  (dropStart? "/**".toList line).isSome || (dropStart? "*".toList line).isSome

/-- How many braces are opened and closed outside of comment lines. -/
def countBraces (content : List Char) : Nat × Nat :=
  let code := ((pieces '\n' content).filter (!isCommentLine ·)).flatten
  (code.count '\x7b', code.count '\x7d')

/-- Accepts a text with as many opening as closing braces. -/
def validate (content : String) : Except OutputError Unit :=
  let (opening, closing) := countBraces content.toList
  if opening = closing then .ok () else .error (.unbalanced opening closing)

/-- Accepts a value that is such a text. -/
def validateValue (content : Json) : Except Failure Unit :=
  match content with
  | .string text => (validate text).mapError .output
  | _ => faulty .noMember

/-- The output settings, if there are any. A void value stands for the standard ones. -/
def OutputSetting.get : OutputSetting → Except Failure OutputSettings
  | .settings given => .ok given
  | .other found => if found.isVoid then .ok {} else faulty .noMember

namespace Writer

/-- Fails if a file is there and must not be. -/
def checkPlace (settings : OutputSettings) (path : Path) : Action Unit := do
  if settings.mode = .mode .errorIfExists then
    let w ← get
    if ← ofFileSystem (w.tree.present (w.trail path)) then
      throw (.output (.alreadyExists path.toString))

/-- Fails if a file is there and must not be, or if its text is malformed. -/
def check (settings : OutputSettings) (path : Path) (content : String) : Action Unit := do
  checkPlace settings path
  if !settings.validate.isVoid then
    match validate content with
    | .ok () => pure ()
    | .error e => throw (.output e)

/-- The number of a temporary file as eight digits. -/
def temporarySuffix (n : Nat) : String :=
  let digits := Nat.toDigits 10 n
  String.ofList (List.replicate (8 - digits.length) '0' ++ digits)

def temporaryName (name : String) (n : Nat) : String :=
  "." ++ name ++ "." ++ temporarySuffix n ++ ".tmp"

/-- The first temporary name of a directory that is not taken; one more than there are entries
has to be tried at most. -/
def freshName (t : FileTree) (directory : Position) (name : String) : String :=
  let free (n : Nat) : Bool := (t.node? (directory ++ [temporaryName name n])).isNone
  temporaryName name (((List.range (t.entries.length + 1)).find? free).getD 0)

/-- Writes a temporary file into the directory of a file. All temporary names for a file are of one
length, so there is room for each of them or for none. -/
def writeBeside (parents : List String) (name : String) (content : ByteArray)
    (t : FileTree) : Except FileFault (Position × FileTree) := do
  let directory ← t.walk [] parents
  let _ ← t.target (directory ++ [temporaryName name 0])
  let temporary := directory ++ [freshName t directory name]
  return (temporary, t.set temporary (.file content))

/-- Writes a file beside its place and moves it there, and takes it away if it cannot be moved. -/
def writeAtomically (parents : List String) (name : String) (content : ByteArray)
    (names : List String) (t : FileTree) : Except FileFault Unit × FileTree :=
  match writeBeside parents name content t with
  | .error fault => (.error fault, t)
  | .ok (temporary, written) =>
    match written.moveFile temporary names with
    | .ok moved => (.ok (), moved)
    | .error fault => (.error fault, written.erase temporary)

def makeParents (path : Path) : Action Unit := do
  let w ← get
  let names := w.trail path.parent
  let (outcome, tree) := w.tree.makeDirectories names names.length
  set { w with tree }
  ofFileSystem outcome

def place (settings : OutputSettings) (path : Path) (content : ByteArray) : Action Unit := do
  let w ← get
  let names := w.trail path
  if settings.atomic.isVoid then
    changeTree (·.writeFile names content)
  else
    -- a path without names leads to a directory, which cannot be replaced
    let names := if path.names.isEmpty then [] else names
    let (outcome, tree) := writeAtomically (w.trail path.parent) path.name content names w.tree
    set { w with tree }
    ofFileSystem outcome

def write (settings : OutputSettings) (path : Path) (content : String) : Action Unit := do
  check settings path content
  makeParents path
  place settings path (toOctets content)

def inOrder (files : List (String × String)) : List (String × String) :=
  files.mergeSort fun a b => !decide (b.1 < a.1)

/-- Checks all texts, then writes each below the root. The paths of the files are returned. -/
def writeAll (setting : OutputSetting) (root : Path) (files : List (String × String)) :
    Action (List Path) := do
  let files := inOrder files
  files.forM fun (modulePath, text) => do
    check (← Task.ofExcept setting.get) (root / modulePath) text
  let written ← files.mapM fun (modulePath, text) => do
    let path := root / modulePath
    write (← Task.ofExcept setting.get) path text
    return path
  report .info ("Wrote " ++ toString written.length ++ " files to " ++ root.toString)
  return written

/-! ## Writing what need not be text -/

/-- The path that a value leads to from a root; only a text is a path. -/
def pathBelow (root : Path) (below : Json) : Except Failure Path :=
  match below with
  | .string below => .ok (root / below)
  | _ => faulty .mismatch

/-- Writes one file whose content should be a text. What is none is noticed when the file is about
to be written, so the directories that lead to it have been made by then. -/
def writeValue (settings : OutputSettings) (path : Path) (content : Json) : Action Unit := do
  match content with
  | .string text => write settings path text
  | _ =>
    checkPlace settings path
    if !settings.validate.isVoid then Task.ofExcept (validateValue content)
    makeParents path
    if !settings.atomic.isVoid then
      let w ← get
      let _ ← ofFileSystem (writeBeside (w.trail path.parent) path.name (toOctets "") w.tree)
    throw (.fault .mismatch)

/-- Checks all contents, then writes each below the root, the contents and their paths being any
values. -/
def writeAllValues (setting : OutputSetting) (root : Path) (files : Settings.Table) :
    Action (List Path) := do
  match files.mapM fun (path, content) => return (← path.string?, ← content.string?) with
  | some files => writeAll setting root files
  | none =>
    let ordered ← Task.ofExcept (Json.sortWith (Json.entryBefore? fun _ _ => some false) files)
    ordered.forM fun (below, content) => do
      let settings ← Task.ofExcept setting.get
      if settings.mode = .mode .errorIfExists then
        checkPlace settings (← Task.ofExcept (pathBelow root below))
      if !settings.validate.isVoid then Task.ofExcept (validateValue content)
    let written ← ordered.mapM fun (below, content) => do
      let path ← Task.ofExcept (pathBelow root below)
      writeValue (← Task.ofExcept setting.get) path content
      return path
    report .info ("Wrote " ++ toString written.length ++ " files to " ++ root.toString)
    return written

end Writer

end ApiTypings
