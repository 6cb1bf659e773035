import ApiTypings.Text.Pieces

/-!
# Similar words

How alike two words are: twice the number of characters in matching blocks by
the number of all characters. The longest common block is matched first, the
leftmost of several, then what is left of it and what is right of it. `closest`
picks the words worth suggesting in place of a mistyped one.
-/

namespace ApiTypings.Closeness

def commonLength : List Char → List Char → Nat
  | a :: as, b :: bs => if a = b then commonLength as bs + 1 else 0
  | _, _ => 0

/-- A common block: where it begins in either word, and its length. -/
structure Block where
  left : Nat
  right : Nat
  size : Nat
deriving DecidableEq, Repr

def blocks (as bs : List Char) : List Block :=
  (List.range as.length).flatMap fun i =>
    (List.range bs.length).map fun j => ⟨i, j, commonLength (as.drop i) (bs.drop j)⟩

def longestBlock (as bs : List Char) : Block :=
  (blocks as bs).foldl (fun best b => if best.size < b.size then b else best) ⟨0, 0, 0⟩

/-- How many characters are in matching blocks. `fuel` bounds the number of blocks. -/
def matching : (fuel : Nat) → (as bs : List Char) → Nat
  | 0, _, _ => 0
  | fuel + 1, as, bs =>
    let b := longestBlock as bs
    if b.size = 0 then 0
    else
      matching fuel (as.take b.left) (bs.take b.right) + b.size +
        matching fuel (as.drop (b.left + b.size)) (bs.drop (b.right + b.size))

def likeness (a b : String) : Nat × Nat :=
  (2 * matching (a.length + 1) a.toList b.toList, a.length + b.length)

/-- Whether a likeness is worth a suggestion: at least three fifths. -/
def isClose (ratio : Nat × Nat) : Bool := 3 * ratio.2 ≤ 5 * ratio.1

/-- Whether the first scored word comes no later than the second, the likest first and of equally
like words the greatest. -/
def before (x y : (Nat × Nat) × String) : Bool :=
  let l := x.1.1 * y.1.2
  let r := y.1.1 * x.1.2
  r < l || (r == l && !decide (x.2 < y.2))

/-- The words closest to a given one, three at most, in the order of the words. -/
def closest (word : String) (words : List String) : List String :=
  let scored := words.map fun w => (likeness w word, w)
  let best := ((scored.filter fun s => isClose s.1).mergeSort before).take 3
  (best.map Prod.snd).mergeSort fun a b => !decide (b < a)

end ApiTypings.Closeness
