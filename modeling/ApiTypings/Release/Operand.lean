import ApiTypings.Failure
import ApiTypings.Release.Member

/-!
# What a field denotes

The field of a template denotes a text, but it may ask for more than characters:
a text has members, which are its kind, the description of its kind and the
operations on texts, and these have members in turn. Only texts and numbers can
be laid out; everything else is shown by its name.
-/

namespace ApiTypings.Template

inductive Operand
  | text (value : List Char)
  | number (value : Nat)
  | truth (value : Bool)
  | nothing
  | kind (k : Kind)
  | kinds (ks : List Kind)
  /-- A list of one value. -/
  | single (value : Operand)
  /-- The table without entries. -/
  | dictionary
  /-- The members that a kind brings with it, as a table. -/
  | view (k : Kind)
  /-- A member by itself, of the kind that brought it. -/
  | member (owner : Kind) (m : Member)
  /-- An operation together with the value it is to work on. -/
  | bound (owner : Kind) (m : Member) (value : Operand)
  /-- The operation that makes values of a kind. -/
  | maker (k : Kind)
  /-- An operation that works on nothing, by itself and as it stands in a table. -/
  | free (owner : Kind) (m : Member)
  | loose (owner : Kind) (m : Member)
  /-- A kind together with a parameter. -/
  | filled (k : Kind) (parameter : Operand)
deriving Repr

namespace Operand

def kindOf : Operand → Kind
  | text _ => .text
  | number _ => .number
  | truth _ => .truth
  | nothing => .nothing
  | kind _ => .kind
  | kinds _ | single _ => .tuple
  | dictionary => .dictionary
  | view _ => .view
  | member _ m =>
    match m.sort with
    | .sign => .signOperation
    | .kindOperation => .kindOperation
    | .computed => .computed
    | .stored => .stored
    | _ => .operation
  | bound _ m _ => if m.sort = .sign then .signMethod else .method
  | maker _ | free _ _ => .method
  | loose _ _ => .loose
  | filled _ _ => .filled

def ofString (s : String) : Operand := .text s.toList

def ofString? (s : Option String) : Operand := (s.map ofString).getD .nothing

def entry (owner : Kind) (m : Member) : Operand :=
  match m.sort with
  | .constant => ofString? m.description
  | .maker => .maker owner
  | .loose => .loose owner m
  | _ => .member owner m

/-! ## Words -/

/-- The words between angle brackets that stand for a value without a text. -/
def angled (words : List String) : String := "<" ++ Text.join " " words ++ ">"

def kindText (k : Kind) : String := angled ["class", Json.literalText k.shownName]

def memberText (owner : Kind) (m : Member) : String :=
  let sort := match m.sort with
    | .sign => "slot wrapper"
    | .computed => "attribute"
    | .stored => "member"
    | _ => "method"
  angled [sort, Json.literalText m.name, "of", Json.literalText owner.shownName, "objects"]

def methodText (name : String) (k : Kind) : String :=
  angled ["built-in method", name, "of", k.shownName, "object"]

def entryText (owner : Kind) (m : Member) : String :=
  match m.sort with
  | .constant => (m.description.map Json.literalText).getD Json.null.plain
  | .maker => methodText m.name .kind
  | .loose => angled ["staticmethod(" ++ methodText m.name .kind ++ ")"]
  | _ => memberText owner m

def viewText (k : Kind) : String :=
  let entries := k.members.map fun m => Json.literalText m.name ++ ": " ++ entryText k m
  "\x7b" ++ Text.join ", " entries ++ "\x7d"

def literal : Operand → String
  | text value => Json.literalText (String.ofList value)
  | number value => toString value
  | truth value => (Json.bool value).plain
  | nothing => Json.null.plain
  | kind k => kindText k
  | kinds [k] => "(" ++ kindText k ++ ",)"
  | kinds ks => "(" ++ Text.join ", " (ks.map kindText) ++ ")"
  | single value => "(" ++ value.literal ++ ",)"
  | dictionary => "\x7b\x7d"
  | view k => Kind.view.name ++ "(" ++ viewText k ++ ")"
  | member owner m => memberText owner m
  | bound _ m value =>
    if m.sort = .sign then
      angled ["method-wrapper", Json.literalText m.name, "of", value.kindOf.shownName, "object"]
    else methodText m.name value.kindOf
  | maker _ => methodText Member.maker.name .kind
  | free _ m => methodText m.name .kind
  | loose owner m => entryText owner m
  | filled k parameter => k.name ++ "[" ++ parameter.literal ++ "]"

def plain : Operand → List Char
  | text value => value
  | view k => (viewText k).toList
  | value => value.literal.toList

/-! ## Members -/

def qualified (k : Kind) (name : String) : Operand := ofString (k.name ++ "." ++ name)

/-- What the kind of kinds says of itself. -/
def kindWords : String :=
  "type(object) -> the object's type\ntype(name, bases, dict, **kwds) -> a new type"

/-- What a kind says of itself, if it can: that may be a member which says it for each value. -/
def descriptionOf (k : Kind) : Operand :=
  if k = .kind then ofString kindWords
  else match k.members.find? (·.name = "__doc__") with
    | some m => entry k m
    | none => .nothing

def ofKind (k : Kind) (name : String) : Option Operand :=
  match name with
  | "__name__" | "__qualname__" => some (ofString k.name)
  | "__module__" => some (ofString k.home)
  | "__doc__" => some (descriptionOf k)
  | "__text_signature__" => some (ofString? k.signature?)
  | "__base__" => some ((k.base?.map kind).getD .nothing)
  | "__bases__" => some (.kinds k.base?.toList)
  | "__mro__" => some (.kinds k.line)
  | "__dict__" => some (.view k)
  | "__basicsize__" => some (.number k.sizes.1)
  | "__itemsize__" => some (.number k.sizes.2)
  | "__flags__" => some (.number k.traits)
  | "__weakrefoffset__" => some (.number k.referrersAt)
  | "__dictoffset__" => some (.number k.membersAt)
  | _ => none

def ofNumber (n : Nat) (name : String) : Option Operand :=
  match name with
  | "real" | "numerator" => some (.number n)
  | "imag" => some (.number 0)
  | "denominator" => some (.number 1)
  | _ => none

def ofOperation (m : Member) (name : String) : Option Operand :=
  match name with
  | "__name__" => some (ofString m.name)
  | "__doc__" => some (ofString? m.description)
  | "__text_signature__" => some (ofString? m.signature)
  | _ => none

/-- The kind whose name stands in front of the name of an operation of a value. -/
def holder : Operand → Kind
  | kind k => k
  | value => value.kindOf

/-- The value that a member which is worked out or stored has for a value of its kind. -/
def own? (value : Operand) (name : String) : Option Operand :=
  if name = "__class__" then some (.kind value.kindOf)
  else match value, name with
    | kind k, _ => ofKind k name
    | number n, _ => ofNumber n name
    | truth b, _ => ofNumber b.toNat name
    | member owner _, "__objclass__" => some (.kind owner)
    | member owner m, "__qualname__" => some (qualified owner m.name)
    | member _ m, _ => ofOperation m name
    | bound _ _ self, "__self__" => some self
    | bound owner m self, "__qualname__" =>
      some (qualified (if m.sort = .sign then owner else self.holder) m.name)
    | bound owner _ _, "__objclass__" => some (.kind owner)
    | bound _ _ _, "__module__" => some .nothing
    | bound _ m _, _ => ofOperation m name
    | maker k, "__self__" => some (.kind k)
    | maker k, "__qualname__" => some (qualified k Member.maker.name)
    | maker _, "__module__" => some .nothing
    | maker _, _ => ofOperation .maker name
    | free _ _, "__self__" | free _ _, "__module__" => some .nothing
    | free owner m, "__qualname__" => some (qualified owner m.name)
    | free _ m, _ => ofOperation m name
    | loose owner m, "__func__" | loose owner m, "__wrapped__" => some (.free owner m)
    | loose _ _, "__isabstractmethod__" => some (.truth false)
    | loose _ _, "__dict__" => some .dictionary
    | filled k _, "__origin__" => some (.kind k)
    | filled _ parameter, "__args__" => some (.single parameter)
    | filled _ _, "__parameters__" => some (.kinds [])
    | filled _ _, "__unpacked__" => some (.truth false)
    | filled _ _, "__typing_unpacked_tuple_args__" => some .nothing
    | _, _ => none

/-- A member that is the same for all values of a kind, as a value of the kind has it. -/
def attach (owner : Kind) (m : Member) (value : Operand) : Operand :=
  match m.sort with
  | .sign | .operation => .bound owner m value
  | .kindOperation => .bound owner m (.kind value.kindOf)
  | .loose => .free owner m
  | _ => entry owner m

/-- A member that a kind brings with it, as the kind itself has it. -/
def attachToKind (k owner : Kind) (m : Member) : Operand :=
  match m.sort with
  | .kindOperation => .bound owner m (.kind k)
  | .loose => .free owner m
  | _ => entry owner m

/-- A member of a value as its kind provides it. -/
def instanceMember? (value : Operand) (name : String) : Option Operand := do
  let (owner, m) ← value.kindOf.find? name
  if m.isOwn then value.own? name else some (attach owner m value)

/-- A member of a kind: what all kinds have a value for, then what the kind brings with it, then
the operations on kinds. -/
def kindMember? (k : Kind) (name : String) : Option Operand :=
  match Kind.kind.find? name, k.find? name with
  | some (owner, m), found =>
    if m.isOwn then (kind k).own? name
    else match found with
      | some (owner, m) => some (attachToKind k owner m)
      | none => some (attach owner m (.kind k))
  | none, some (owner, m) => some (attachToKind k owner m)
  | none, none => none

/-- The members that a kind with a parameter does not leave to the kind. -/
def keptNames : List String := [
  "__class__", "__origin__", "__args__", "__unpacked__", "__parameters__",
  "__typing_unpacked_tuple_args__", "__mro_entries__", "__reduce_ex__", "__reduce__",
  "__copy__", "__deepcopy__"]

def member? (value : Operand) (name : String) : Option Operand :=
  match value with
  | kind k => kindMember? k name
  | filled k _ => if keptNames.contains name then value.instanceMember? name else kindMember? k name
  | value => value.instanceMember? name

/-! ## Parts -/

/-- What is asked for between brackets: a number, or a text that is none. -/
inductive Key
  | index (n : Nat)
  | name (value : List Char)
deriving Repr

def ofKey : Key → Operand
  | .index n => .number n
  | .name value => .text value

def nth {α : Type} (items : List α) : Key → Except Fault α
  | .index i => match items[i]? with
    | some found => .ok found
    | none => .error .noIndex
  | .name _ => .error .mismatch

/-- The part of a value under a key. Some kinds take the key as a parameter. -/
def part (value : Operand) (key : Key) : Except Fault Operand :=
  match value, key with
  | text cs, _ => (nth cs key).map fun c => .text [c]
  | kinds ks, _ => (nth ks key).map kind
  | single item, _ => nth [item] key
  | dictionary, _ => .error .noKey
  | view _, .index _ => .error .noKey
  | view k, .name name =>
    match k.members.find? (·.name = String.ofList name) with
    | some m => .ok (entry k m)
    | none => .error .noKey
  | kind k, _ =>
    if k = .kind || (k.find? "__class_getitem__").isSome then .ok (.filled k (ofKey key))
    else .error .mismatch
  | _, _ => .error .mismatch

end Operand

end ApiTypings.Template
