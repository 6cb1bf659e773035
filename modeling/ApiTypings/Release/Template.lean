import ApiTypings.Release.Layout
import ApiTypings.Release.Version

/-!
# Address templates

The address of a schema is given as a template in which `{version}` stands for
the tag of a release. A field between braces can take one character of its value
(`{version[0]}`) or a member, ask for its literal (`!r`, or `!a` for ASCII), and
lay the value out after a colon. Such a layout may contain fields of its own,
which may not. Doubled braces stand for themselves.
-/

namespace ApiTypings.Template

open Text

structure Slot where
  name : List Char
  conversion : Option Char
  layout : List Char
  /-- Whether there are fields within the layout. -/
  nested : Bool
deriving Repr

/-! ## Taking a field apart -/

/-- The name of a field, the character that ends it and what follows. Between brackets only a
closing bracket counts. -/
def scanName : (inBrackets : Bool) → (acc : List Char) → List Char →
    Step (List Char × Char × List Char)
  | _, _, [] => .error .illValued
  | true, acc, c :: rest => scanName (c ≠ ']') (c :: acc) rest
  | false, acc, c :: rest =>
    if c = '\x7b' then .error .illValued
    else if c = '\x7d' ∨ c = ':' ∨ c = '!' then .ok (acc.reverse, c, rest)
    else scanName (c = '[') (c :: acc) rest

/-- A layout up to the brace that closes the field, and what follows. `depth` counts the braces
that are open. -/
def scanLayout : (depth : Nat) → (acc : List Char) → List Char → Step (List Char × List Char)
  | _, _, [] => .error .illValued
  | depth, acc, c :: rest =>
    if c = '\x7b' then scanLayout (depth + 1) (c :: acc) rest
    else if c = '\x7d' then
      if depth ≤ 1 then .ok (acc.reverse, rest) else scanLayout (depth - 1) (c :: acc) rest
    else scanLayout depth (c :: acc) rest

/-- The field whose name and conversion are known, after the colon. -/
def scanRest (name : List Char) (conversion : Option Char) (rest : List Char) :
    Step (Slot × List Char) := do
  let (layout, rest) ← scanLayout 1 [] rest
  return (⟨name, conversion, layout, layout.contains '\x7b'⟩, rest)

/-- A field after its opening brace, and what follows it. -/
def scanSlot (cs : List Char) : Step (Slot × List Char) := do
  match ← scanName false [] cs with
  | (name, '\x7d', rest) => return (⟨name, none, [], false⟩, rest)
  | (name, ':', rest) => scanRest name none rest
  | (name, _, c :: '\x7d' :: rest) => return (⟨name, some c, [], false⟩, rest)
  | (name, _, c :: ':' :: rest) => scanRest name (some c) rest
  | _ => .error .illValued

/-! ## The value of a field -/

def isNameChar (c : Char) : Bool := c ≠ '.' && c ≠ '['

/-- Applies what follows the name of the argument: `[…]` takes a part by its index, `.` a member
by its name. -/
def access : (fuel : Nat) → Operand → (path : List Char) → Step Operand
  | 0, value, _ => .ok value
  | _ + 1, value, [] => .ok value
  | fuel + 1, value, '.' :: path =>
    let name := path.takeWhile isNameChar
    if name.isEmpty then .error .illValued
    else match value.member? (String.ofList name) with
      | some member => access fuel member (path.dropWhile isNameChar)
      | none => .error .noMember
  | fuel + 1, value, '[' :: path => do
    let key := path.takeWhile (· ≠ ']')
    match path.dropWhile (· ≠ ']') with
    | [] => .error .illValued
    | _ :: rest =>
      let index ← index? key
      if key.isEmpty then .error .illValued
      let key := match index with
        | some i => Operand.Key.index i
        | none => .name key
      access fuel (← value.part key) rest
  | _ + 1, _, _ => .error .illValued

/-- The value of a field: the one argument there is, by its name. -/
def lookUp (tag : List Char) (name : List Char) : Step Operand := do
  let first := name.takeWhile isNameChar
  if first.isEmpty || (← index? first).isSome then .error .noIndex
  else if first = "version".toList then
    access (name.length + 1) (.text tag) (name.dropWhile isNameChar)
  else .error .noKey

/-- A literal in which everything outside ASCII is given by number. -/
def asciiLiteral (value : Operand) : List Char :=
  value.literal.toList.flatMap fun c =>
    if c.toNat < 0x80 then [c]
    else if c.toNat < 0x100 then '\\' :: 'x' :: Json.hexPadded 2 c.toNat
    else if c.toNat < 0x10000 then '\\' :: 'u' :: Json.hexPadded 4 c.toNat
    else '\\' :: 'U' :: Json.hexPadded 8 c.toNat

/-- Converts a value as the letter after `!` says; a null character is no letter and asks for
nothing. -/
def convert (value : Operand) : Option Char → Step Operand
  | none | some '\x00' => .ok value
  | some 's' => .ok (.text value.plain)
  | some 'r' => .ok (.ofString value.literal)
  | some 'a' => .ok (.text (asciiLiteral value))
  | some _ => .error .illValued

/-! ## Filling in a template -/

/-- Fills in a template, field by field from the left. `depth` says how deep fields may be
nested, `fuel` bounds the number of steps and is the length of the template. -/
def fill (tag : List Char) : (depth fuel : Nat) → List Char → Step (List Char)
  | _, _, [] => .ok []
  | 0, _, _ => .error .illValued
  | _, 0, _ => .error .illValued
  | depth + 1, fuel + 1, c :: rest =>
    if c = '\x7b' ∨ c = '\x7d' then
      match rest with
      | d :: more =>
        if d = c then (c :: ·) <$> fill tag (depth + 1) fuel more
        else if c = '\x7d' then .error .illValued
        else do
          let (slot, more) ← scanSlot rest
          let value ← convert (← lookUp tag slot.name) slot.conversion
          let layout ← if slot.nested then fill tag depth slot.layout.length slot.layout
            else pure slot.layout
          let text ← layOut layout value
          (text ++ ·) <$> fill tag (depth + 1) fuel more
      | [] => .error .illValued
    else (c :: ·) <$> fill tag (depth + 1) fuel rest

/-- The address of a release, as a template has it. What is no text is no template. -/
def address (template : Json) (version : String) : Except Failure String :=
  match template with
  | .string template =>
    match fill (Version.tag version).toList 2 template.length template.toList with
    | .ok text => .ok (String.ofList text)
    | .error fault => .error (.fault fault)
  | _ => faulty .noMember

end ApiTypings.Template
