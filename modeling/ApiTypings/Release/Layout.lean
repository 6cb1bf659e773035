import ApiTypings.Number.Real64
import ApiTypings.Release.Operand
import ApiTypings.Text.Digits

/-!
# Layouts

A layout says how a text or a number is set: a fill character and an alignment, a
sign, a width, marks between groups of digits, a precision after a point, and a
letter for the form. A text can only be cut and filled up; a number can be
written in several bases, as a character, or as a fraction.
-/

namespace ApiTypings.Template

open Text Number

/-- A step of filling in a template; what stops one has a kind and no words. -/
abbrev Step (α : Type) := Except Fault α

/-- The greatest number that can be written in a template. -/
def greatestIndex : Nat := 9223372036854775807

/-- The number a text of digits denotes, nothing if it has other characters or none. Too great a
number is an error even if other characters follow. -/
def index? (cs : List Char) : Step (Option Nat) :=
  let rec go : (n : Nat) → List Char → Step (Option Nat)
    | n, [] => .ok (some n)
    | n, c :: rest =>
      match decimalValue? c with
      | none => .ok none
      | some d => if greatestIndex < 10 * n + d then .error .illValued else go (10 * n + d) rest
  if cs.isEmpty then .ok none else go 0 cs

structure Frame where
  fill : Char
  align : Char
  sign : Option Char
  /-- Whether zero is to have no sign. -/
  unsignedZero : Bool
  /-- Whether the other of two forms is asked for. -/
  alternate : Bool
  width : Option Nat
  /-- The mark between groups of digits. -/
  mark : Option Char
  precision : Option Nat
  form : Option Char
deriving Repr

def isAlignment (c : Char) : Bool := c == '<' || c == '>' || c == '^' || c == '='

def isSignRule (c : Char) : Bool := c == '+' || c == '-' || c == ' '

/-- The digits at the head of a layout: their number, if there are any, and what follows. -/
def leadingNumber (cs : List Char) : Step (Option Nat × List Char) := do
  let run := cs.takeWhile isDecimalDigit
  return (← index? run, cs.dropWhile isDecimalDigit)

/-- Takes a character off the head of a layout. -/
def takeChar (wanted : Char) (cs : List Char) : Bool × List Char :=
  match cs with
  | c :: rest => if c = wanted then (true, rest) else (false, cs)
  | [] => (false, [])

/-- Takes the mark between groups of digits off the head of a layout. The two marks exclude each
other. -/
def takeMark (cs : List Char) : Step (Option Char × List Char) :=
  match cs with
  | ',' :: '_' :: _ | '_' :: ',' :: _ => .error .illValued
  | ',' :: rest => .ok (some ',', rest)
  | '_' :: rest => .ok (some '_', rest)
  | rest => .ok (none, rest)

/-- The forms in which groups of digits can be told apart by a mark. -/
def canMark (mark : Char) : Option Char → Bool
  | none => true
  | some form =>
    "defgEG%F".toList.contains form || (mark == '_' && "boxX".toList.contains form)

/-- Reads a layout for values that stand at `side` if nothing else is said. The fill `0` may stand
in front of the width, and then the digits of a number follow its sign. -/
def readFrame (side : Char) (cs : List Char) : Step Frame := do
  let (fill, align, rest) := match cs with
    | c :: d :: rest =>
      if isAlignment d then (some c, some d, rest)
      else if isAlignment c then (none, some c, d :: rest)
      else (none, none, cs)
    | [c] => if isAlignment c then (none, some c, []) else (none, none, cs)
    | [] => (none, none, [])
  let (sign, rest) := match rest with
    | c :: more => if isSignRule c then (some c, more) else (none, rest)
    | [] => (none, [])
  let (unsignedZero, rest) := takeChar 'z' rest
  let (alternate, rest) := takeChar '#' rest
  let (zeros, rest) := if fill.isNone then takeChar '0' rest else (false, rest)
  let (width, rest) ← leadingNumber rest
  let (mark, rest) ← takeMark rest
  let (precision, rest) ← match rest with
    | '.' :: more => do
      let (precision, more) ← leadingNumber more
      if precision.isNone then .error .illValued
      pure (precision, more)
    | more => pure (none, more)
  let form ← match rest with
    | [] => pure none
    | [c] => pure (some c)
    | _ => .error .illValued
  if let some mark := mark then
    if !canMark mark form then .error .illValued
  return {
    fill := if zeros then '0' else fill.getD ' '
    align := align.getD (if zeros && side == '>' then '=' else side)
    sign, unsignedZero, alternate, width, mark, precision, form }

/-- Fills a value up to the width. What stands before the fill under the alignment `=` is given
apart. -/
def Frame.pad (frame : Frame) (front body : List Char) : List Char :=
  let missing := frame.width.getD 0 - (front.length + body.length)
  let fill (n : Nat) : List Char := List.replicate n frame.fill
  if frame.align = '=' then front ++ fill missing ++ body
  else
    let left := if frame.align = '>' then missing
      else if frame.align = '^' then missing / 2 else 0
    fill left ++ front ++ body ++ fill (missing - left)

/-! ## Texts -/

/-- Lays a text out: cut to its precision, then filled up to its width. What only numbers can have
is refused. -/
def Frame.text (frame : Frame) (value : List Char) : Step (List Char) :=
  if frame.align = '=' || frame.sign.isSome || frame.unsignedZero || frame.alternate
      || frame.mark.isSome || !(frame.form.getD 's' == 's') then
    .error .illValued
  else
    .ok (frame.pad [] (match frame.precision with
      | some n => value.take n
      | none => value))

/-! ## Numbers -/

/-- The digits of a number in groups with a mark between them, all of it backwards. There are at
least as many digits and marks as `room` asks for, zeros in front. -/
def markGroups (mark : Char) (size : Nat) : (fuel : Nat) → List Char → (room : Nat) → List Char
  | 0, digits, _ => digits
  | fuel + 1, digits, room =>
    let taken := min size (max (max digits.length room) 1)
    let group := digits.take taken
    let group := group ++ List.replicate (taken - group.length) '0'
    let digits := digits.drop taken
    let room := room - taken
    if digits.isEmpty && room = 0 then group
    else group ++ mark :: markGroups mark size fuel digits (room - 1)

/-- How a number is written: what stands before its digits, its digits, and what follows. -/
structure Numeral where
  front : List Char := []
  digits : List Char
  rest : List Char := []

/-- Sets a numeral: its sign, its digits in groups, and all of it filled up to the width. Where
zeros fill the room after the sign, they are digits. -/
def Frame.set (frame : Frame) (groupSize : Nat) (numeral : Numeral) : List Char :=
  let sign := match frame.sign with
    | some '+' => ['+']
    | some ' ' => [' ']
    | _ => []
  let front := sign ++ numeral.front
  let room := if frame.fill = '0' && frame.align = '=' then
    frame.width.getD 0 - (front.length + numeral.rest.length) else 0
  let digits := match frame.mark with
    | some mark =>
      (markGroups mark groupSize (numeral.digits.length + room + 1) numeral.digits.reverse
        room).reverse
    | none => padLeft room numeral.digits
  frame.pad front (digits ++ numeral.rest)

def decimalDigits (n : Nat) : List Char := Nat.toDigits 10 n

/-- A number to a count of digits, the last of them rounded, and the power of ten of the first. -/
def leadingDigits (n count : Nat) : List Char × Nat :=
  let digits := decimalDigits n
  let length := digits.length
  if length ≤ count then (digits ++ List.replicate (count - length) '0', length - 1)
  else
    let rounded := decimalDigits (Real64.roundHalfEven n (Nat.pow 10 (length - count)))
    if count < rounded.length then (rounded.take count, length) else (rounded, length - 1)

/-- The digits after a point, with the point; none need no point, unless it is asked for. -/
def afterPoint (pointed : Bool) (digits : List Char) : List Char :=
  if digits.isEmpty && !pointed then [] else '.' :: digits

def trimZeros (digits : List Char) : List Char :=
  (digits.reverse.dropWhile (· == '0')).reverse

def exponentText (letter : Char) (power : Nat) : List Char :=
  letter :: '+' :: padLeft 2 (decimalDigits power)

def pointNumeral (frame : Frame) (n : Nat) : Numeral where
  digits := decimalDigits n
  rest := afterPoint frame.alternate (List.replicate (frame.precision.getD 6) '0')

def exponentNumeral (frame : Frame) (letter : Char) (n : Nat) : Numeral :=
  let (digits, power) := leadingDigits n (frame.precision.getD 6 + 1)
  { digits := digits.take 1
    rest := afterPoint frame.alternate (digits.drop 1) ++ exponentText letter power }

/-- A number with a point if it has few digits and with an exponent if it has many; zeros at the end
count only in the other form. -/
def generalNumeral (frame : Frame) (letter : Char) (n : Nat) : Numeral :=
  let count := max (frame.precision.getD 6) 1
  let (digits, power) := leadingDigits n count
  let whole := if power < count then power + 1 else 1
  let fraction := digits.drop whole
  let fraction := if frame.alternate then fraction else trimZeros fraction
  { digits := digits.take whole
    rest := afterPoint frame.alternate fraction ++
      (if power < count then [] else exponentText letter power) }

/-- A number in a base, which only the other form names. -/
def baseNumeral (frame : Frame) (base : Nat) (name : Char) (n : Nat) : Numeral where
  front := if frame.alternate then ['0', name] else []
  digits := Nat.toDigits base n

def characterNumeral (frame : Frame) (n : Nat) : Step Numeral :=
  if frame.sign.isSome || frame.alternate then .error .illValued
  else if 0x110000 ≤ n then .error .tooGreat
  else .ok { digits := [Char.ofNat n] }

/-- Lays a number out. Whole numbers have no precision. -/
def Frame.number (frame : Frame) (n : Nat) : Step (List Char) := do
  let form := frame.form.getD 'd'
  if "eEfFgG%".toList.contains form then
    let numeral := match form with
      | 'e' | 'E' => exponentNumeral frame form n
      | 'f' | 'F' => pointNumeral frame n
      | 'g' => generalNumeral frame 'e' n
      | 'G' => generalNumeral frame 'E' n
      | _ =>
        let hundredfold := pointNumeral frame (100 * n)
        { hundredfold with rest := hundredfold.rest ++ ['%'] }
    return frame.set 3 numeral
  else if !"bcdoxXn".toList.contains form then .error .illValued
  else if frame.precision.isSome || frame.unsignedZero then .error .illValued
  else
    match form with
    | 'b' => return frame.set 4 (baseNumeral frame 2 form n)
    | 'o' => return frame.set 4 (baseNumeral frame 8 form n)
    | 'x' => return frame.set 4 (baseNumeral frame 16 form n)
    | 'X' =>
      let numeral := baseNumeral frame 16 form n
      return frame.set 4 { numeral with digits := numeral.digits.map Char.toUpper }
    | 'c' => return frame.set 3 (← characterNumeral frame n)
    | _ => return frame.set 3 { digits := decimalDigits n }

/-- Lays a value out as a layout says. Every value has the empty layout, and only texts and numbers
have others; a truth value counts as one or zero then. -/
def layOut (layout : List Char) (value : Operand) : Step (List Char) := do
  if layout.isEmpty then return value.plain
  match value with
  | .text cs => (← readFrame '<' layout).text cs
  | .number n => (← readFrame '>' layout).number n
  | .truth b => (← readFrame '>' layout).number b.toNat
  | _ => .error .mismatch

end ApiTypings.Template
