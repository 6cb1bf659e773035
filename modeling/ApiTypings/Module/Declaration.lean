import ApiTypings.Failure
import ApiTypings.Text.Blank

/-!
# Declarations

The declarations of a module and the source lines they become. While a module
is built, descriptions and types are whatever the schema and the settings gave
(`Declaration Json`); `Declaration.settle` checks that they are text, and
`Declaration.lines` writes a declaration of texts. An empty description is none.
-/

namespace ApiTypings

open Text

/-- A field of an interface, with descriptions and types of some kind `τ`. -/
structure Field (τ : Type) where
  name : String
  description : τ
  type : τ
  optional : Bool
deriving Repr, DecidableEq

inductive Declaration (τ : Type)
  | interface (name : String) (description : τ) (fields : List (Field τ))
  | union (name : String) (description : τ) (types : List τ)
  /-- A field that stands by itself, put there by hand. -/
  | field (field : Field τ)
  /-- Something that is no declaration, put there by hand. -/
  | foreign (found : Json)
deriving Repr, DecidableEq

def Declaration.name? {τ : Type} : Declaration τ → Option String
  | .interface name _ _ => some name
  | .union name _ _ => some name
  | .field f => some f.name
  | .foreign _ => none

/-! ## From values to texts -/

/-- A description as text: a void one is empty, and no other value but a text is one. -/
def settleDescription (found : Json) : Except Failure String :=
  if found.isVoid then .ok ""
  else match found with
    | .string text => .ok text
    | _ => .error (.fault .mismatch)

def settleAlternative (found : Json) : Except Failure String :=
  match found with
  | .string text => .ok text
  | _ => .error (.fault .mismatch)

/-- A field with its description and type as texts; any value is written into a field. -/
def Field.settle (field : Field Json) : Except Failure (Field String) := do
  let description ← settleDescription field.description
  return { name := field.name, description, type := field.type.plain, optional := field.optional }

def Declaration.settle : Declaration Json → Except Failure (Declaration String)
  | .interface name description fields => do
    let description ← settleDescription description
    return .interface name description (← fields.mapM Field.settle)
  | .union name description types => do
    let description ← settleDescription description
    return .union name description (← types.mapM settleAlternative)
  | .field f => .field <$> f.settle
  | .foreign found => .error (.generation (.strangeNode found))

/-! ## Descriptions -/

/-- The word that ends the description of a required member, read backwards. -/
def markerBackwards : List Char := "deriuqeR".toList

/-- The text without the mark that says that a member is required: white space, the word
`Required`, perhaps a full stop, perhaps more white space, and the end. Seen from the end the
mark is found without a search. -/
def dropMarker (cs : List Char) : List Char :=
  let tail := cs.reverse.dropWhile isBlank
  let tail := match tail with
    | '.' :: more => more
    | more => more
  match dropStart? markerBackwards tail with
  | some (c :: more) => if isBlank c then (more.dropWhile isBlank).reverse else cs
  | _ => cs

/-- The lines of a description, without the mark and without white space at their ends. -/
def reflow (description : String) : List (List Char) :=
  (pieces '\n' (dropMarker description.toList)).map trimEnd

def docLines (description : String) : List String :=
  if description.isEmpty then []
  else "/**" :: (reflow description).map (fun line => " * " ++ String.ofList line) ++ [" */"]

/-! ## Source lines -/

/-- A letter of ASCII or the underscore. -/
def isNameStart (c : Char) : Bool := c.isAlpha || c == '_'

def isNameChar (c : Char) : Bool := c.isAlphanum || c == '_'

/-- Whether a field name is written as it is: an identifier of ASCII, also with one line feed
after it. -/
def isBare (name : String) : Bool :=
  match name.toList with
  | [] => false
  | c :: rest =>
    isNameStart c &&
      (rest.all isNameChar || (rest.getLast? == some '\n' && rest.dropLast.all isNameChar))

def fieldKey (name : String) : String := if isBare name then name else quote name

def Field.lines (field : Field String) : List String :=
  let mark := if field.optional then "?" else ""
  docLines field.description ++ [fieldKey field.name ++ mark ++ ": " ++ field.type]

/-- The lines of a member that is not the first: a blank line sets off one of several lines. -/
def setOff (indent : String) (member : List String) : List String :=
  (if 1 < member.length then [""] else []) ++ member.map (indent ++ ·)

def joinMembers (indent : String) : List (List String) → List String
  | [] => []
  | first :: rest => first.map (indent ++ ·) ++ rest.flatMap (setOff indent)

/-- The lines of a declaration. What is no declaration has none. -/
def Declaration.lines : Declaration String → List String
  | .interface name description fields =>
    docLines description ++ ["export interface " ++ name ++ " \x7b"] ++
      joinMembers "  " (fields.map Field.lines) ++ ["\x7d"]
  | .union name description types =>
    docLines description ++ ["export type " ++ name ++ " = " ++ join " | " types]
  | .field f => f.lines
  | .foreign _ => []

def Declaration.render (declaration : Declaration Json) : Except Failure (List String) := do
  return (← declaration.settle).lines

end ApiTypings
