import ApiTypings.Failure
import ApiTypings.Text.Digits

/-!
# Release versions

A version number may be given without its leading `v`, and a release without a
patch number means its first patch. Digits of every script count. A version
that is no number, such as a branch, is taken as it is.
-/

namespace ApiTypings.Version

open Text

/-- The version that a value is. Only a text is one. -/
def ofValue (version : Json) : Except Failure String :=
  match version with
  | .string version => .ok version
  | _ => faulty .mismatch

/-- A version with `v` in front if it begins with a digit. -/
def normalize (version : String) : String :=
  match version.toList with
  | c :: _ => if isDecimalDigit c then "v" ++ version else version
  | [] => version

/-- One or more digits, and what follows all of them. -/
def digits? (cs : List Char) : Option (List Char) :=
  match cs with
  | c :: _ => if isDecimalDigit c then some (cs.dropWhile isDecimalDigit) else none
  | [] => none

/-- Whether a version is `v`, a number, a point and a number; a line feed may follow. -/
def isMinorRelease (version : String) : Bool :=
  match version.toList with
  | 'v' :: rest =>
    match digits? rest with
    | some ('.' :: rest) =>
      match digits? rest with
      | some [] | some ['\n'] => true
      | _ => false
    | _ => false
  | _ => false

/-- The tag under which the schema of a version is published. -/
def tag (version : String) : String :=
  if isMinorRelease version then version ++ ".0" else version

end ApiTypings.Version
