import ApiTypings.CommandLine.Arguments
import ApiTypings.CommandLine.Styling
import ApiTypings.Files.Writer
import ApiTypings.Generation
import ApiTypings.Loading
import ApiTypings.Release.Template
import ApiTypings.Web.Body

/-!
# A run

A run reads its settings, loads the schema of a version, generates the project
and writes it below a directory named for the version. Nothing is written before
all of it has been generated.

Some of what a run can meet is left out. Values may be nested to any depth and
texts hold whole characters only, so neither a stack nor an encoding ever stops
it. Of the headers of an answer only the encoding that they declare is known.
Files have no owners, modes or links, no other program writes at the same time,
and the terminal is eighty characters wide.
-/

namespace ApiTypings.CommandLine

def programName : String := "openapi_to_ts"

/-- A path as the file system knows it: absolute, every `..` taken back. -/
def resolvePath (w : World) (path : String) : Path where
  start := "/"
  names := Path.resolve (w.trail (.ofString path))

/-- Whether a path given as an argument leads somewhere. No path has a null character. -/
def leadsSomewhere (w : World) (path : String) : Except Fault Bool :=
  if Text.hasChar '\x00' path then .error (.file .illegalName)
  else match w.tree.stat (resolvePath w path).names with
    | .ok _ => .ok true
    | .error _ => .ok false

def readSettings (path : Path) : Action Settings := do
  let w ← get
  let content ← ofFileSystem (w.tree.readFile (w.trail path))
  match textOfFile content with
  | .error fault => throw (.fault fault)
  | .ok text =>
    match parseDocument text with
    | .ok raw => Task.ofExcept (Settings.read raw)
    | .error (.inl _) => throw (.fault .notJson)
    | .error (.inr fault) => throw (.fault fault)

/-- The settings of the file that is named, and the standard ones if there is none. -/
def configure (call : Call) : Action Settings := do
  match call.config with
  | some path => readSettings (resolvePath (← get) path)
  | none => return Settings.standard

/-- The settings with the output mode that was asked for. Where the output part is something
else it has no mode to be set. -/
def overrideMode (force : Option Bool) (settings : Settings) : Except Failure Settings :=
  match force, settings.output with
  | none, _ => .ok settings
  | some force, .settings output =>
    let mode := if force then OutputMode.force else .errorIfExists
    .ok { settings with output := .settings { output with mode := .mode mode } }
  | some _, .other _ => faulty .noMember

def outputRoot (w : World) (call : Call) (settings : Settings) (version : String) :
    Except Failure Path :=
  match call.output, settings.outputDir with
  | some output, _ => .ok (resolvePath w output / version)
  | none, .string directory => .ok (Path.ofString directory / version)
  | none, _ => faulty .mismatch

/-- Loads the schema, from a file if one is named and else over the network. -/
def loadSchema (network : Network) (call : Call) (settings : Settings) (version : String) :
    Action Json := do
  match call.schema with
  | some path => loadFile (resolvePath (← get) path)
  | none =>
    let url ← Task.ofExcept (Template.address settings.schemaUrl version)
    loadUrl network url settings.requestTimeout

def generating {α : Type} (step : Generating α) : Action α := do
  let w ← get
  let (outcome, work) := step.outcome { log := w.log }
  set { w with log := work.log }
  Task.ofExcept outcome

/-- Everything up to the writing: the settings, the directory and the rendered files. -/
def prepare (network : Network) (call : Call) :
    Action (Settings × Path × List (String × String)) := do
  let settings ← Task.ofExcept (overrideMode call.force (← configure call))
  let version := Version.normalize call.version
  let root ← Task.ofExcept (outputRoot (← get) call settings version)
  let document ← loadSchema network call settings version
  let generator ← Task.ofExcept (Generator.ofSchema settings document)
  let files ← generating generator.render
  Task.ofExcept (settings.require "output")
  return (settings, root, files)

/-- A whole run. The module paths of the files written are returned, in their order. -/
def perform (network : Network) (call : Call) : Action (List String) := do
  let (settings, root, files) ← prepare network call
  let _ ← Writer.writeAll settings.output root files
  return (Writer.inOrder files).map Prod.fst

structure Result where
  exitCode : Nat
  stdout : String := ""
  stderr : String
  /-- The fault that stopped the run, where there are no words for it. -/
  fault : Option Fault
  world : World

def logLine (record : LogRecord) : String :=
  "[" ++ programName ++ "] " ++ record.level.name ++ " " ++ record.text ++ "\n"

/-- The lines of a log; records of the lowest level only if they are asked for. -/
def logText (verbose : Bool) (log : Log) : String :=
  String.join ((log.filter fun r => verbose || r.level ≠ .debug).map logLine)

def usage : String :=
  "Usage: " ++ programName ++ " [OPTIONS] VERSION\nTry '" ++ programName ++
    " --help' for help.\n\n"

/-- What is said to those who ask for help, in lines of up to 78 characters. -/
def help : String := Text.join "\n" [
  "Usage: " ++ programName ++ " [OPTIONS] VERSION",
  "",
  "Options:",
  "  -c, --config PATH",
  "  -s, --schema PATH     Read the OpenAPI document from a local file instead of",
  "                        fetching it",
  "  -o, --output PATH     Root directory for generated files",
  "  --force / --no-force  Overwrite existing files (default) or fail if one",
  "                        exists",
  "  -v, --verbose",
  "  --help                Show this message and exit.",
  ""]

def complaint (message : String) : String := unstyle ("Error: " ++ message ++ "\n")

def ended (exitCode : Nat) (words : String) (fault : Option Fault) (world : World) : Result :=
  { exitCode, stderr := spoken words, fault, world }

def run (network : Network) (arguments : List String) (w : World) : Result :=
  match readCall (leadsSomewhere w) arguments with
  | .error (.usage e) =>
    ended 2 ((if e.showsUsage then usage else "") ++ complaint e.message) none w
  | .error (.fault fault) => ended 1 "" (some fault) w
  | .error .help => { ended 0 "" none w with stdout := help }
  | .ok call =>
    let (outcome, after) := (perform network call).outcome w
    let log := logText call.verbose (after.log.drop w.log.length)
    match outcome with
    | .ok paths => ended 0 (log ++ String.join (paths.map fun p => unstyle (p ++ "\n"))) none after
    | .error (.fault fault) => ended 1 log (some fault) after
    | .error failure => ended 1 (log ++ complaint (failure.message?.getD "")) none after

end ApiTypings.CommandLine
