import ApiTypings.CommandLine.Closeness
import ApiTypings.Failure

/-!
# Arguments

The arguments of a run are options and one word, the version. An option that
takes a value has it after an equals sign, directly after its letter, or as the
next argument; letters of options without a value may share a dash. After `--`
everything is a word. Of an option given twice the last value counts.
-/

namespace ApiTypings.CommandLine

inductive Parameter
  | config | schema | output | force | verbose | version | help
deriving DecidableEq, Repr

inductive Setting
  | text (value : String)
  | flag (value : Bool)
deriving DecidableEq, Repr

/-- Why the arguments make no run. -/
inductive UsageError
  | noSuchOption (name : String) (similar : List String)
  | noValue (name : String)
  | needlessValue (name : String)
  | noVersion
  | noPath (option letter path : String)
  | extraWords (words : List String)
deriving DecidableEq, Repr

def UsageError.message : UsageError → String
  | .noSuchOption name similar =>
    "No such option: " ++ name ++
      match similar with
      | [] => ""
      | [one] => " Did you mean " ++ one ++ "?"
      | several => " (Possible options: " ++ Text.join ", " several ++ ")"
  | .noValue name => "Option " ++ Json.literalText name ++ " requires an argument."
  | .needlessValue name => "Option " ++ Json.literalText name ++ " does not take a value."
  | .noVersion => "Missing argument 'VERSION'."
  | .noPath option letter path =>
    "Invalid value for '" ++ option ++ "' / '" ++ letter ++ "': Path " ++
      Json.literalText path ++ " does not exist."
  | .extraWords [word] => "Got unexpected extra argument (" ++ word ++ ")"
  | .extraWords words => "Got unexpected extra arguments (" ++ Text.join " " words ++ ")"

/-- Whether the message is preceded by the form of a call; an option whose value is missing or
needless speaks for itself. -/
def UsageError.showsUsage : UsageError → Bool
  | .noValue _ | .needlessValue _ => false
  | _ => true

/-- What keeps arguments from being a call. -/
inductive Refusal
  | usage (error : UsageError)
  /-- A value that cannot be worked with at all. -/
  | fault (fault : Fault)
  /-- They only ask what could be said. -/
  | help
deriving DecidableEq, Repr

/-- What an option does: it sets a parameter to a fixed value, or to the value it takes. -/
inductive OptionKind
  | flag (parameter : Parameter) (value : Bool)
  | text (parameter : Parameter)
deriving DecidableEq, Repr

def longOptions : List (String × OptionKind) := [
  ("--config", .text .config), ("--schema", .text .schema), ("--output", .text .output),
  ("--force", .flag .force true), ("--no-force", .flag .force false),
  ("--verbose", .flag .verbose true), ("--help", .flag .help true)]

def shortOptions : List (Char × OptionKind) := [
  ('c', .text .config), ('s', .text .schema), ('o', .text .output),
  ('v', .flag .verbose true)]

abbrev Given := Parameter × Setting

/-- What an argument that begins with a dash gives, and the option that still waits for its
value. -/
abbrev Reading := List Given × Option (String × Parameter)

def readLong (name : String) (value : Option String) : OptionKind → Except UsageError Reading
  | .text p =>
    match value with
    | some v => .ok ([(p, .text v)], none)
    | none => .ok ([], some (name, p))
  | .flag p b =>
    match value with
    | some _ => .error (.needlessValue name)
    | none => .ok ([(p, .flag b)], none)

/-- Reads letters after a dash. What follows the letter of an option with a value is its value. -/
def readLetters : List Char → Except UsageError Reading
  | [] => .ok ([], none)
  | c :: rest =>
    let name := String.ofList ['-', c]
    match shortOptions.lookup c with
    | none => .error (.noSuchOption name [])
    | some (.text p) =>
      if rest.isEmpty then .ok ([], some (name, p))
      else .ok ([(p, .text (String.ofList rest))], none)
    | some (.flag p b) => do
      let (given, waiting) ← readLetters rest
      return ((p, .flag b) :: given, waiting)

def splitValue (argument : String) : String × Option String :=
  let cs := argument.toList
  match cs.dropWhile (· ≠ '=') with
  | [] => (argument, none)
  | _ :: value => (String.ofList (cs.takeWhile (· ≠ '=')), some (String.ofList value))

def readOption (argument : String) : Except UsageError Reading :=
  let (name, value) := splitValue argument
  match longOptions.lookup name with
  | some kind => readLong name value kind
  | none =>
    if Text.startsWith "--" argument then
      .error (.noSuchOption name (Closeness.closest name (longOptions.map Prod.fst)))
    else readLetters (argument.toList.drop 1)

def isOption (argument : String) : Bool :=
  argument.toList.head? == some '-' && 1 < argument.length

/-- Reads all arguments: what the options give, and the words. -/
def readArguments : List String → Except UsageError (List Given × List String)
  | [] => .ok ([], [])
  | argument :: rest =>
    if argument = "--" then .ok ([], rest)
    else if isOption argument then
      match readOption argument with
      | .error e => .error e
      | .ok (given, none) => do
        let (more, words) ← readArguments rest
        return (given ++ more, words)
      | .ok (given, some (name, p)) =>
        match rest with
        | [] => .error (.noValue name)
        | value :: rest => do
          let (more, words) ← readArguments rest
          return (given ++ (p, .text value) :: more, words)
    else do
      let (more, words) ← readArguments rest
      return (more, argument :: words)

def lastGiven (p : Parameter) (given : List Given) : Option Setting :=
  (given.reverse.find? (·.1 = p)).map Prod.snd

def lastText (p : Parameter) (given : List Given) : Option String :=
  match lastGiven p given with
  | some (.text value) => some value
  | _ => none

def lastFlag (p : Parameter) (given : List Given) : Option Bool :=
  match lastGiven p given with
  | some (.flag value) => some value
  | _ => none

structure Call where
  config : Option String
  schema : Option String
  output : Option String
  force : Option Bool
  verbose : Bool
  version : String
deriving DecidableEq, Repr

/-- Checks the path given to a parameter; it has to lead somewhere if a value is no good else. -/
def checkPath (leads : String → Except Fault Bool) (given : List Given) (p : Parameter)
    (complaint : String → Option UsageError) : Except Refusal Unit :=
  match lastText p given with
  | none => .ok ()
  | some path =>
    match leads path, complaint path with
    | .error fault, _ => .error (.fault fault)
    | .ok false, some e => .error (.usage e)
    | .ok _, _ => .ok ()

/-- Checks the value of a parameter. A directory for the output need not be there yet. -/
def checkParameter (leads : String → Except Fault Bool) (given : List Given) :
    Parameter → Except Refusal Unit
  | .config => checkPath leads given .config fun path => some (.noPath "--config" "-c" path)
  | .schema => checkPath leads given .schema fun path => some (.noPath "--schema" "-s" path)
  | .output => checkPath leads given .output fun _ => none
  | _ => .ok ()

/-- Reads a call. Whoever asks for help is given it before anything else is looked at. Otherwise
options are checked in the order in which they are first given, then the words; `leads` says
whether a path leads somewhere. -/
def readCall (leads : String → Except Fault Bool) (arguments : List String) :
    Except Refusal Call := do
  let (given, words) ← (readArguments arguments).mapError .usage
  if (lastFlag .help given).isSome then .error .help
  given.forM fun (p, _) => checkParameter leads given p
  match words with
  | [] => .error (.usage .noVersion)
  | version :: extra =>
    if !extra.isEmpty then .error (.usage (.extraWords extra))
    return {
      config := lastText .config given
      schema := lastText .schema given
      output := lastText .output given
      force := lastFlag .force given
      verbose := (lastFlag .verbose given).getD false
      version }

end ApiTypings.CommandLine
