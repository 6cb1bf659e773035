import ApiTypings.Naming.Location

/-!
# Settings

What a run can be told: how names become locations, which types are replaced or
redefined, where the schema comes from and where and how files are written.

`Settings.read` reads them from JSON and keeps each value as it was found, so
that a value of the wrong type only does harm where it is used. `Settings.dump`
writes them as plain tables and lists.
-/

namespace ApiTypings

/-- What to do with an output file that is already there. -/
inductive OutputMode
  | errorIfExists
  | force
deriving DecidableEq, Repr

def OutputMode.name : OutputMode → String
  | .errorIfExists => "error"
  | .force => "force"

def OutputMode.ofName? (name : String) : Option OutputMode :=
  if name = "error" then some .errorIfExists else if name = "force" then some .force else none

/-- A mode as it is set: one of the two, or some other value, which forbids nothing. -/
inductive ModeSetting
  | mode (mode : OutputMode)
  | other (found : Json)
deriving Repr, DecidableEq

structure OutputSettings where
  mode : ModeSetting := .mode .force
  validate : Json := .bool true
  atomic : Json := .bool true
deriving Repr, DecidableEq

/-- The output part of the settings; any other value may have taken its place. -/
inductive OutputSetting
  | settings (settings : OutputSettings)
  | other (found : Json)
deriving Repr, DecidableEq

structure Settings where
  namespacePrefixes : Json
  replacedTypes : Json
  redefinedTypes : Json
  fileExtension : Json
  outputDir : Json
  schemaUrl : Json
  requestTimeout : Json
  output : OutputSetting
  /-- The names of the members that are not there any more. -/
  missing : List String := []
  /-- Whether the name of the dump still stands for the dump. -/
  dumpable : Bool := true
deriving Repr, DecidableEq

namespace Settings

/-- The prefixes that are dropped from qualified names, longer ones first. -/
def standardPrefixes : Naming.PrefixTable := [
  ("io.k8s.api.", ""),
  ("io.k8s.apimachinery.pkg.apis.", ""),
  ("io.k8s.apimachinery.pkg.", ""),
  ("io.k8s.apiextensions-apiserver.pkg.apis.", "")]

/-- The types written in place of a reference. -/
def standardReplacements : List (String × String) := [("IntOrString", "number | string")]

/-- The types of definitions that are no objects. -/
def standardRedefinitions : List (String × List String) := [
  ("JSON", ["any"]),
  ("JSONSchemaPropsOrArray", ["JSONSchemaProps", "JSONSchemaProps[]"]),
  ("JSONSchemaPropsOrBool", ["JSONSchemaProps", "boolean"]),
  ("JSONSchemaPropsOrStringArray", ["JSONSchemaProps", "string[]"])]

def standardUrl : String :=
  "https://raw.githubusercontent.com/kubernetes/kubernetes/" ++
    "\x7bversion\x7d/api/openapi-spec/swagger.json"

def textTable (table : List (String × String)) : Json :=
  .object (table.map fun (name, text) => (name, .string text))

def listTable (table : List (String × List String)) : Json :=
  .object (table.map fun (name, texts) => (name, .array (texts.map .string)))

/-- The settings of a run that is told nothing. -/
def standard : Settings where
  namespacePrefixes := textTable standardPrefixes
  replacedTypes := textTable standardReplacements
  redefinedTypes := listTable standardRedefinitions
  fileExtension := .string ".ts"
  outputDir := .string "types"
  schemaUrl := .string standardUrl
  requestTimeout := .int 30
  output := .settings {}

/-- Reads the output part of the settings. A mode that is a text must be the name of one. -/
def readOutput (members : List (String × Json)) : Except Failure OutputSettings := do
  let mode ← match member? "mode" members with
    | none => pure (.mode .force)
    | some (.string name) =>
      match OutputMode.ofName? name with
      | some mode => pure (.mode mode)
      | none => faulty .illValued
    | some found => pure (.other found)
  return {
    mode
    validate := (member? "validate_before_write" members).getD (.bool true)
    atomic := (member? "atomic_write" members).getD (.bool true) }

/-! ## Members

The members of the JSON form are set by name, and so can be whatever else settings answer to by a
name: the table of all members, which an object replaces as a whole, and the dump. What settings are
and who refers to them cannot be set. -/

/-- The members without which settings can be. The others have a value that all settings share. -/
def ownMembers : List String := ["namespace_prefixes", "replaced_types", "redefined_types", "output"]

def ofMembers (members : List (String × Json)) : Settings where
  namespacePrefixes := (member? "namespace_prefixes" members).getD .null
  replacedTypes := (member? "replaced_types" members).getD .null
  redefinedTypes := (member? "redefined_types" members).getD .null
  fileExtension := (member? "file_extension" members).getD standard.fileExtension
  outputDir := (member? "output_dir" members).getD standard.outputDir
  schemaUrl := (member? "schema_url" members).getD standard.schemaUrl
  requestTimeout := (member? "request_timeout" members).getD standard.requestTimeout
  output := .other ((member? "output" members).getD .null)
  missing := ownMembers.filter fun name => (member? name members).isNone
  dumpable := (member? "to_dict" members).isNone

def require (settings : Settings) (name : String) : Except Failure Unit :=
  if name ∈ settings.missing then faulty .noMember else .ok ()

/-- The settings with a member changed; one that is missing is passed over. -/
def change (settings : Settings) (name : String) (changed : Settings) : Settings :=
  if name ∈ settings.missing then settings else changed

/-- Applies one member of the JSON form; unknown members are passed over. -/
def set (settings : Settings) (name : String) (found : Json) : Except Failure Settings :=
  match name with
  | "namespace_prefixes" => .ok (settings.change name { settings with namespacePrefixes := found })
  | "replaced_types" => .ok (settings.change name { settings with replacedTypes := found })
  | "redefined_types" => .ok (settings.change name { settings with redefinedTypes := found })
  | "file_extension" => .ok { settings with fileExtension := found }
  | "output_dir" => .ok { settings with outputDir := found }
  | "schema_url" => .ok { settings with schemaUrl := found }
  | "request_timeout" => .ok { settings with requestTimeout := found }
  | "output" =>
    match found with
    | .object members => do
      let output ← readOutput members
      return { settings with
        output := .settings output, missing := settings.missing.filter (· ≠ "output") }
    | _ => .ok (settings.change name { settings with output := .other found })
  | "__dict__" =>
    match found with
    | .object members => .ok (ofMembers members)
    | _ => faulty .mismatch
  | "to_dict" => .ok { settings with dumpable := false }
  | "__class__" => faulty .mismatch
  | "__weakref__" => faulty .noMember
  | _ => .ok settings

/-- Reads settings: the standard ones, changed member by member. -/
def read (raw : Json) : Except Failure Settings := do
  (← raw.members).foldlM (fun settings (name, found) => settings.set name found) standard

def naming (settings : Settings) : Naming := ⟨settings.namespacePrefixes, settings.fileExtension⟩

/-- A table with keys of any kind, as a dump has them. -/
abbrev Table := List (Json × Json)

/-- Writes one entry of a table; an entry of the same key keeps its place and its key. -/
def setEntry (key value : Json) : Table → Table
  | [] => [(key, value)]
  | (k, old) :: rest =>
    if k.sameKey key then (k, value) :: rest else (k, old) :: setEntry key value rest

/-- Reads one entry of a table given as a list: exactly two parts, the first of them an atom. -/
def readEntry (entry : Json) : Except Failure (Json × Json) :=
  match entry.parts? with
  | none => faulty .mismatch
  | some [key, value] => if key.isAtom then .ok (key, value) else faulty .mismatch
  | some _ => faulty .illValued

/-- A value copied as a table: an object, or a sequence of pairs. -/
def copyTable (found : Json) : Except Failure Table :=
  match found with
  | .object members => .ok (members.map fun (name, value) => (.string name, value))
  | _ =>
    match found.parts? with
    | none => faulty .mismatch
    | some entries =>
      entries.foldlM (fun table entry => do
        let (key, value) ← readEntry entry
        return setEntry key value table) []

/-- A table of lists, every value copied as a list. -/
def copyLists (found : Json) : Except Failure Table := do
  (← found.members).mapM fun (name, value) =>
    match value.parts? with
    | some parts => return (.string name, .array parts)
    | none => faulty .mismatch

structure Dump where
  namespacePrefixes : Table
  replacedTypes : Table
  redefinedTypes : Table
  fileExtension : Json
  outputDir : Json
  schemaUrl : Json
  requestTimeout : Json
  mode : OutputMode
  validate : Json
  atomic : Json
deriving Repr

/-- Dumps settings. Tables are copied first, the output part last; where that is missing it has no
mode. -/
def dump (settings : Settings) : Except Failure Dump := do
  if !settings.dumpable then faulty .mismatch
  settings.require "namespace_prefixes"
  let namespacePrefixes ← copyTable settings.namespacePrefixes
  settings.require "replaced_types"
  let replacedTypes ← copyTable settings.replacedTypes
  settings.require "redefined_types"
  let redefinedTypes ← copyLists settings.redefinedTypes
  match settings.output with
  | .settings { mode := .mode mode, validate, atomic } =>
    return {
      namespacePrefixes, replacedTypes, redefinedTypes
      fileExtension := settings.fileExtension
      outputDir := settings.outputDir
      schemaUrl := settings.schemaUrl
      requestTimeout := settings.requestTimeout
      mode, validate, atomic }
  | _ => faulty .noMember

/-- A table as a JSON object; a key that is no text is named by its own JSON text. -/
def tableObject (table : Table) : Json :=
  .object (table.map fun (key, value) => (key.string?.getD key.compact, value))

def Dump.toJson (dump : Dump) : Json := .object [
  ("namespace_prefixes", tableObject dump.namespacePrefixes),
  ("replaced_types", tableObject dump.replacedTypes),
  ("redefined_types", tableObject dump.redefinedTypes),
  ("file_extension", dump.fileExtension),
  ("output_dir", dump.outputDir),
  ("schema_url", dump.schemaUrl),
  ("request_timeout", dump.requestTimeout),
  ("output", .object [
    ("mode", .string dump.mode.name),
    ("validate_before_write", dump.validate),
    ("atomic_write", dump.atomic)])]

/-- Whether the settings read back from a dump are the ones dumped. -/
def readsBack (settings : Settings) (dump : Dump) : Bool :=
  match read dump.toJson with
  | .ok back => back = settings
  | .error _ => false

end Settings

end ApiTypings
