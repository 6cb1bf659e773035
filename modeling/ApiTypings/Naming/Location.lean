import ApiTypings.Schema.Document

/-!
# Where a definition is declared

A qualified name such as `io.k8s.api.batch.v1.Job` becomes the type `Job` of the
module `batch/v1.ts`: a known prefix is replaced, and the segments of what
remains are the path of the module and, last, the name of the type. A name
without a known prefix has no location.
-/

namespace ApiTypings

/-- Where a definition is declared. -/
structure Location where
  /-- The path of the module, such as `batch/v1.ts`. -/
  path : String
  /-- The name of the type, such as `Job`. -/
  name : String
deriving DecidableEq, Repr

namespace Naming

/-- Prefixes and what replaces them; the first that fits counts. -/
abbrev PrefixTable := List (String × String)

/-- A name with its prefix replaced by the first entry that fits. -/
def simplify (table : PrefixTable) (name : String) : Option String :=
  match table with
  | [] => none
  | (start, replacement) :: rest =>
    match Text.afterPrefix? start name with
    | some remainder => some (replacement ++ remainder)
    | none => simplify rest name

/-- The location that a simplified name spells out. -/
def spellOut (extension simplified : String) : Location :=
  let segments := Text.split '.' simplified
  { path := Text.join "/" segments.dropLast ++ extension, name := segments.getLastD "" }

def locate (table : PrefixTable) (extension name : String) : Option Location :=
  (simplify table name).map (spellOut extension)

end Naming

/-- How names become locations, as a configuration says it. -/
structure Naming where
  prefixes : Json
  extension : Json
deriving Repr

namespace Naming

/-- The table of prefixes. What replaces one may be any value and counts as its text. -/
def table (naming : Naming) : Except Failure PrefixTable := do
  let members ← naming.prefixes.members
  return members.map fun (start, replacement) => (start, replacement.plain)

def simplified (naming : Naming) (name : String) : Except Failure (Option String) := do
  return simplify (← naming.table) name

/-- The location that a simplified name has, if there is one. An extension that is no text does no
harm where there is none. -/
def placed (naming : Naming) (simplified : Option String) : Except Failure (Option Location) :=
  match simplified, naming.extension with
  | none, _ => .ok none
  | some simplified, .string extension => .ok (some (spellOut extension simplified))
  | some _, _ => faulty .mismatch

def location (naming : Naming) (name : String) : Except Failure (Option Location) := do
  naming.placed (← naming.simplified name)

/-- A value that should be a name with its prefix replaced by the first entry that fits, the
prefixes being any values. Only a text has a prefix, and only a text is one. -/
def simplifyValue (table : List (Json × Json)) (name : Json) : Except Failure (Option String) :=
  match table with
  | [] => .ok none
  | (start, replacement) :: rest =>
    match name, start with
    | .string text, .string start =>
      match Text.afterPrefix? start text with
      | some remainder => .ok (some (replacement.plain ++ remainder))
      | none => simplifyValue rest name
    | .string _, _ => faulty .mismatch
    | _, _ => faulty .noMember

def hasLocation (naming : Naming) (name : String) : Except Failure Bool := do
  return (← naming.location name).isSome

end Naming

end ApiTypings
