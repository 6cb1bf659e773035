import ApiTypings.CommandLine.Run

/-!
# The program

The outer layer of a run. `main` looks at those places on the disk that the run
can ask for, runs it on what was found there, and stores what it changed. There
is no network here, so a schema has to be named as a file.
-/

namespace ApiTypings.CommandLine

def diskPath (p : Position) : String := "/" ++ Text.join "/" p

def noNetwork : HttpOutcome := .failed .connection "no network"

def nodeOnDisk? (p : Position) : IO (Option Node) := do
  try
    let place ← IO.FS.realPath (diskPath p)
    if ← place.isDir then return some .directory
    return some (.file (← IO.FS.readBinFile place))
  catch _ => return none

/-- Enters into the tree what stands along a path on the disk. -/
def look (tree : FileTree) (names : List String) : IO FileTree :=
  (List.range names.length).foldlM (fun tree i => do
    let p := Path.resolve (names.take (i + 1))
    match ← nodeOnDisk? p with
    | some node => return tree.set p node
    | none => return tree) tree

/-- Looks at the files that a call names, and at those that it will write. -/
def survey (call : Call) (w : World) : IO World := do
  let named := [call.config, call.schema].filterMap fun path => path
  let tree ← named.foldlM (fun tree path => look tree (w.trail (.ofString path))) w.tree
  let w := { w with tree }
  match ((prepare noNetwork call).outcome w).1 with
  | .error _ => return w
  | .ok (_, root, files) =>
    let tree ← files.foldlM (fun tree (modulePath, _) =>
      look tree (w.trail (root / modulePath))) w.tree
    return { w with tree }

/-- Stores on the disk what is new in a tree. A file is written beside its place first. -/
def store (before after : FileTree) : IO Unit :=
  after.entries.forM fun (p, node) => do
    if !(before.node? p).any node.same then
      match node with
      | .directory => IO.FS.createDirAll (diskPath p)
      | .file content =>
        let beside := diskPath (p.dropLast ++ [Writer.freshName after p.dropLast (p.getLastD "")])
        IO.FS.writeBinFile beside content
        IO.FS.rename beside (diskPath p)

end ApiTypings.CommandLine

open ApiTypings ApiTypings.CommandLine

def main (arguments : List String) : IO UInt32 := do
  let home := (Path.ofString (← IO.currentDir).toString).names
  let world : World := { home, tree := ← look {} home }
  let world ← match readCall (fun _ => .ok true) arguments with
    | .ok call => survey call world
    | .error _ => pure world
  let result := run noNetwork arguments world
  store world.tree result.world.tree
  IO.print result.stdout
  IO.eprint result.stderr
  if result.fault.isSome then IO.eprintln "The run met a value that it cannot work with."
  return result.exitCode.toUInt32
