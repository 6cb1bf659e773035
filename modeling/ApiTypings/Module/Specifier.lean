import ApiTypings.Failure
import ApiTypings.Text.Pieces

/-!
# Import specifiers

How one module names another: by the path that leads from its directory to the
other module. Paths are texts with `/` between segments and are taken as they
are, so odd ones get odd specifiers.
-/

namespace ApiTypings.Specifier

open Text

/-- The part of a path after its last slash. -/
def baseName (path : List Char) : List Char :=
  (path.reverse.takeWhile (· ≠ '/')).reverse

/-- The part of a path up to its last slash, without slashes at its end unless there is nothing
else. -/
def directory (path : List Char) : List Char :=
  let upTo := path.reverse.dropWhile (· ≠ '/')
  if upTo.all (· = '/') then upTo.reverse else (upTo.dropWhile (· = '/')).reverse

/-- The specifier of the module at `target` in the module at `source`: within a directory by
name alone, from the root by the whole path, and else up to the root and down from it. -/
def chars (source target : List Char) : List Char :=
  let home := directory source
  if home = directory target then '.' :: '/' :: baseName target
  else if home.isEmpty then '.' :: '/' :: target
  else (pieces '/' home).flatMap (fun _ => ['.', '.', '/']) ++ target

/-- The specifier of the module at `target` in the module at `source`. -/
def of (source target : String) : String :=
  String.ofList (chars source.toList target.toList)

/-- The specifier for two values that should be paths. Only a text is one. -/
def ofValues (source target : Json) : Except Failure String :=
  match source, target with
  | .string source, .string target => .ok (of source target)
  | _, _ => faulty .mismatch

end ApiTypings.Specifier
