import ApiTypings.Module.Basic
import ApiTypings.Module.Specifier

/-!
# The source of a module

A module is written as its imports, a blank line if there are any, and its
declarations. Imports are sorted by specifier and names, declarations by name
and lines, so the source depends on what is in the module and not on the order
in which it came there.
-/

namespace ApiTypings

open Text

def importLine (specifier : String) (names : List String) : String :=
  "import \x7b" ++ join ", " names ++ "\x7d from " ++ quote specifier

/-- The lines with line feeds inside them made into lines of their own. -/
def flattenLines (source : List String) : List String := source.flatMap Text.lines

namespace Module

def importLines {τ : Type} (m : Module τ) : List String :=
  let entries := m.imports.map fun (path, names) => (Specifier.of m.path path, sortTexts names)
  (sortPairs entries).map fun (specifier, names) => importLine specifier names

/-- The lines of the declarations, each with its name, in their order. -/
def bodyLines (named : List (String × List String)) : List String :=
  joinMembers "" ((sortPairs named).map Prod.snd)

def assemble {τ : Type} (m : Module τ) (named : List (String × List String)) : List String :=
  let imports := m.importLines
  flattenLines (imports ++ (if imports.isEmpty then [] else [""]) ++ bodyLines named)

def named (declaration : Declaration Json) : Except Failure (String × List String) :=
  match declaration.name? with
  | none => .error (.fault .noMember)
  | some name => do return (name, ← declaration.render)

def render (m : Module Json) : Except Failure (List String) := do
  return m.assemble (← m.declarations.mapM named)

/-- The text of a module; every line of it ends in a line feed. -/
def renderText (m : Module Json) : Except Failure String := do
  return String.join ((← m.render).map (· ++ "\n"))

end Module

end ApiTypings
