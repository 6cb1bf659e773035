import ApiTypings.Json.Display

/-!
# Failures

What can stop the program, by cause, and the message of each. A fault is a step
that met a value it cannot work with; only its kind is known. All other
failures are foreseen and carry a message.

`Task` is a step that changes a state and may fail; what it did to the state
before failing stays done.
-/

namespace ApiTypings

/-- How the file system refuses an operation. -/
inductive FileFault
  /-- Something is there already. -/
  | alreadyExists
  /-- Nothing is there. -/
  | missing
  /-- A file is there and not a directory. -/
  | notDirectory
  /-- A directory is there and not a file. -/
  | isDirectory
  | nameTooLong
  /-- A name with a null character, which no file system takes. -/
  | illegalName
  /-- The root and the parent of a directory cannot be replaced. -/
  | busy
deriving DecidableEq, Repr

/-- A step met a value it cannot work with. -/
inductive Fault
  /-- The operation is not defined for this kind of value. -/
  | mismatch
  /-- A member was asked of a value that has no members, or not this one. -/
  | noMember
  /-- The value is of the right kind but not one of those allowed. -/
  | illValued
  /-- A number is greater than there is room for. -/
  | tooGreat
  /-- A table has no entry of this name. -/
  | noKey
  /-- A list has no entry at this place. -/
  | noIndex
  /-- A text that had to be JSON is none. -/
  | notJson
  /-- Octets that had to be text are none. -/
  | notText
  /-- The file system refused. -/
  | file (cause : FileFault)
deriving DecidableEq, Repr

/-- What is wrong with the shape of a schema. -/
inductive SchemaProblem
  /-- The document has no table of definitions. -/
  | noDefinitions
  /-- A definition is no object. -/
  | notDefinition (path : String) (found : Json)
  /-- A value schema is no object. -/
  | notValue (path : String) (found : Json)
  /-- A list does not say of what. -/
  | noItems (path : String)
  /-- A map does not say to what. -/
  | noEntries (path : String)
  /-- A value schema has no type that is known. -/
  | unknownType (path : String) (found : Json)
deriving Repr

def SchemaProblem.message : SchemaProblem → String
  | .noDefinitions => "Schema has no definitions mapping"
  | .notDefinition path found =>
    path ++ ": definition must be an object, got " ++ found.compact
  | .notValue path found => path ++ ": unsupported value " ++ found.compact
  | .noItems path => path ++ ": array without items"
  | .noEntries path => path ++ ": object without additionalProperties"
  | .unknownType path found => path ++ ": unsupported value type " ++ found.compact

/-- Why no declarations can be generated. -/
inductive GenerationError
  | schema (problem : SchemaProblem)
  /-- A reference that does not point into the definitions. -/
  | foreignReference (reference : String)
  /-- A reference to a definition the document does not have. -/
  | danglingReference (name : String) (title version : Json)
  /-- A reference to a definition that is not generated. -/
  | excludedReference (reference : String)
  /-- A definition that is no object and names no type. -/
  | untyped (path name : String) (type : Json)
  /-- A scalar of no known type. -/
  | strangeScalar (type : Json)
  /-- Something that is no node at all. -/
  | strangeNode (found : Json)
deriving Repr

def GenerationError.message : GenerationError → String
  | .schema problem => problem.message
  | .foreignReference reference =>
    "Invalid or unsupported $ref: " ++ (Json.string reference).compact
  | .danglingReference name title version =>
    "Failed to resolve " ++ name ++ " in " ++ title.plain ++ "/" ++ version.plain ++ "."
  | .excludedReference reference =>
    "Value references excluded type: " ++
      (Json.object [("$ref", .string reference)]).compact
  | .untyped path name type => path ++ ": Unknown type for " ++ name ++ " " ++ type.compact
  | .strangeScalar type =>
    "\"unreachable\" code was reached: ScalarValue(type=" ++ type.literal ++ ")"
  | .strangeNode found => "\"unreachable\" code was reached: " ++ found.literal

inductive OutputError
  | alreadyExists (path : String)
  | unbalanced (opening closing : Nat)
deriving DecidableEq, Repr

def OutputError.message : OutputError → String
  | .alreadyExists path =>
    "Output file already exists: " ++ path ++ ". Use force mode to overwrite."
  | .unbalanced opening closing =>
    "Generated TypeScript has unbalanced braces: " ++ toString opening ++ " open, " ++
      toString closing ++ " close"

inductive LoadError
  | noFile (path : String)
  | malformedFile (path reason : String)
  | unreadableFile (path reason : String)
  | invalidUrl (url : String)
  | timeout (url : String)
  | noConnection (url : String)
  | refused (status : Json) (url : String)
  | malformedBody (url reason : String)
  | failedRequest (url reason : String)
deriving DecidableEq, Repr

def LoadError.message : LoadError → String
  | .noFile path => "File not found: " ++ path
  | .malformedFile path reason => "Invalid JSON in file " ++ path ++ ": " ++ reason
  | .unreadableFile path reason => "Error reading file " ++ path ++ ": " ++ reason
  | .invalidUrl url => "Invalid URL: " ++ url
  | .timeout url => "Request timeout for URL: " ++ url
  | .noConnection url => "Connection error for URL: " ++ url
  | .refused status url => "HTTP error " ++ status.plain ++ " for URL: " ++ url
  | .malformedBody url reason => "Invalid JSON response from URL " ++ url ++ ": " ++ reason
  | .failedRequest url reason => "Request error for URL " ++ url ++ ": " ++ reason

/-- What can stop the program. -/
inductive Failure
  | generation (error : GenerationError)
  | output (error : OutputError)
  | load (error : LoadError)
  | fault (fault : Fault)
deriving Repr

def Failure.message? : Failure → Option String
  | .generation e => some e.message
  | .output e => some e.message
  | .load e => some e.message
  | .fault _ => none

def faulty {α : Type} (fault : Fault) : Except Failure α := .error (.fault fault)

inductive Level
  | debug | info | warning | error
deriving DecidableEq, Repr

def Level.name : Level → String
  | .debug => "DEBUG"
  | .info => "INFO"
  | .warning => "WARNING"
  | .error => "ERROR"

structure LogRecord where
  level : Level
  text : String
deriving DecidableEq, Repr

/-- The log of a run, the oldest record first. -/
abbrev Log := List LogRecord

/-- A step that changes a state and may fail. -/
abbrev Task (σ α : Type) := ExceptT Failure (StateM σ) α

/-- Runs a step: its outcome and the state it leaves, also when it fails. -/
def Task.outcome {σ α : Type} (task : Task σ α) (s : σ) : Except Failure α × σ :=
  (task.run.run s : Id _)

def Task.ofExcept {σ α : Type} : Except Failure α → Task σ α
  | .ok a => pure a
  | .error e => throw e

end ApiTypings
