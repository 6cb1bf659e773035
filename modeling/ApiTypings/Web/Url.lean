import ApiTypings.Text.Pieces
import ApiTypings.Text.Quoted

/-!
# Addresses

Whether an address names a host to ask: it must have a scheme and, after two
slashes, an authority. The tab and the line ends in it are passed over, as are
blanks and controls in front of it. Brackets in an authority hold an address of
version 6 or a future one, and an authority must not turn into something with a
delimiter when its compatibility characters are replaced.
-/

namespace ApiTypings.Url

open Text

/-- A space or a control character, which may stand in front of an address. -/
def isLeading (c : Char) : Bool := c.toNat ≤ 0x20

/-- A tab or a line end, which may stand anywhere in an address. -/
def isIgnored (c : Char) : Bool := c == '\t' || c == '\r' || c == '\n'

def isSchemeChar (c : Char) : Bool := c.isAlphanum || c == '+' || c == '-' || c == '.'

/-- The scheme of an address, empty if it has none, and what follows it. -/
def splitScheme (cs : List Char) : List Char × List Char :=
  let scheme := cs.takeWhile (· ≠ ':')
  match scheme, cs.dropWhile (· ≠ ':') with
  | c :: _, _ :: rest =>
    if c.isAlpha && scheme.all isSchemeChar then (scheme, rest) else ([], cs)
  | _, _ => ([], cs)

def endsAuthority (c : Char) : Bool := c == '/' || c == '?' || c == '#'

/-- The authority at the head of the rest of an address, empty if there is none. -/
def authority : List Char → List Char
  | '/' :: '/' :: rest => rest.takeWhile (!endsAuthority ·)
  | _ => []

/-! ## Hosts in brackets -/

/-- One to four hexadecimal digits. -/
def isGroup (cs : List Char) : Bool :=
  !cs.isEmpty && cs.length ≤ 4 && cs.all fun c => (hexValue? c).isSome

/-- A number up to 255 in decimal, without zeros in front. -/
def isOctet (cs : List Char) : Bool :=
  !cs.isEmpty && cs.length ≤ 3 && cs.all Char.isDigit && (cs == ['0'] || cs.head? != some '0') &&
    Nat.ofDigitChars 10 cs 0 ≤ 255

/-- Four such numbers with points between them. -/
def isVersion4 (cs : List Char) : Bool :=
  let octets := pieces '.' cs
  octets.length == 4 && octets.all isOctet

/-- The groups of an address of version 6; an address of version 4 at the end counts as two. -/
def groups? (cs : List Char) : Option (List (List Char)) :=
  let parts := pieces ':' cs
  if parts.length < 3 then none
  else
    let last := parts.getLastD []
    if last.contains '.' then
      if isVersion4 last then some (parts.dropLast ++ [['0'], ['0']]) else none
    else some parts

/-- The position of an empty group that has neighbours on both sides. -/
def gaps (groups : List (List Char)) : List Nat :=
  (List.range groups.length).filter fun i =>
    0 < i && i + 1 < groups.length && (groups.getD i []).isEmpty

/-- Groups on one side of a gap: an empty one may stand only at the far end and alone. -/
def sideOk (side : List (List Char)) : Bool := side == [[]] || side.all isGroup

/-- An address of version 6: eight groups, or fewer with one gap in place of the others. -/
def isVersion6 (cs : List Char) : Bool :=
  match groups? cs with
  | none => false
  | some groups =>
    match gaps groups with
    | [] => groups.length == 8 && groups.all isGroup
    | [i] =>
      let before := groups.take i
      let after := groups.drop (i + 1)
      let count (side : List (List Char)) : Nat := if side == [[]] then 0 else side.length
      sideOk before && sideOk after && count before + count after < 8
    | _ => false

/-- An address of version 6, perhaps with the name of a zone after a percent sign. -/
def isScopedVersion6 (cs : List Char) : Bool :=
  let host := cs.takeWhile (· ≠ '%')
  match cs.dropWhile (· ≠ '%') with
  | [] => isVersion6 host
  | _ :: zone => !zone.isEmpty && !zone.contains '%' && isVersion6 host

/-- An address of a later version: `v`, its number, a point and something more. -/
def isFuture (cs : List Char) : Bool :=
  match cs with
  | 'v' :: rest =>
    let version := rest.takeWhile fun c => (hexValue? c).isSome
    match rest.drop version.length with
    | '.' :: more => !version.isEmpty && !more.isEmpty && !more.contains '\n'
    | _ => false
  | _ => false

/-- Whether what stood between brackets is an address of version 6 or a later one. -/
def isBracketable (host : List Char) : Bool :=
  if host.head? == some 'v' then isFuture host else isScopedVersion6 host

/-- What follows the last `@` of an authority: the host and perhaps a port. -/
def hostAndPort (authority : List Char) : List Char :=
  (pieces '@' authority).getLastD []

/-- The host that brackets have to hold, if nothing stands before them and nothing but a port after
them. Where the brackets belong to a user, the whole host takes their place. -/
def bracketedHost? (hostAndPort : List Char) : Option (List Char) :=
  if hostAndPort.contains '[' then
    match hostAndPort with
    | '[' :: inner =>
      match (inner.dropWhile (· ≠ ']')).drop 1 with
      | [] | ':' :: _ => some (inner.takeWhile (· ≠ ']'))
      | _ => none
    | _ => none
  else some (hostAndPort.takeWhile (· ≠ ':'))

/-- Whether the brackets of an authority match and hold an address. -/
def bracketsOk (authority : List Char) : Bool :=
  match authority.contains '[', authority.contains ']' with
  | false, false => true
  | true, true =>
    match bracketedHost? (hostAndPort authority) with
    | some host => isBracketable host
    | none => false
  | _, _ => false

/-! ## Compatibility characters -/

/-- The characters whose compatibility form has one of `/`, `?`, `#`, `@` and `:`. -/
def delimiterForms : List Nat := [
  0x2047, 0x2048, 0x2049, 0x2100, 0x2101, 0x2105, 0x2106, 0x2A74, 0xFE13, 0xFE16, 0xFE55, 0xFE56,
  0xFE5F, 0xFE6B, 0xFF03, 0xFF0F, 0xFF1A, 0xFF1F, 0xFF20]

/-- Whether no character of an authority has a delimiter in its compatibility form. -/
def formsOk (authority : List Char) : Bool :=
  authority.all fun c => !delimiterForms.contains c.toNat

/-! ## The check -/

inductive Verdict
  /-- It has a scheme and an authority. -/
  | complete
  /-- It lacks one of them. -/
  | incomplete
  /-- Its authority is malformed. -/
  | malformed
deriving DecidableEq, Repr

def judge (url : String) : Verdict :=
  let cs := (url.toList.dropWhile isLeading).filter (!isIgnored ·)
  let (scheme, rest) := splitScheme cs
  let host := authority rest
  if !bracketsOk host || !formsOk host then .malformed
  else if scheme.isEmpty || host.isEmpty then .incomplete
  else .complete

end ApiTypings.Url
