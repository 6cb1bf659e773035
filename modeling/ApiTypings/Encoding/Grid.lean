/-!
# Grids of characters

The character sets of East Asia are grids: a character is known by its row and its
place within the row. Many places are empty.
-/

namespace ApiTypings.Encoding

structure Grid where
  /-- The rows under their numbers; a replacement character stands in an empty place. -/
  rows : Array (Array Char)

namespace Grid

def ofRows (rows : List (Nat × String)) : Grid :=
  let height := rows.foldl (fun height row => max height (row.1 + 1)) 0
  ⟨rows.foldl (fun all (number, text) => all.setIfInBounds number text.toList.toArray)
    (Array.replicate height #[])⟩

/-- The character in a place of a row, the first place being zero. -/
def at? (grid : Grid) (row place : Nat) : Option Char :=
  ((grid.rows[row]?).bind (·[place]?)).filter (· != '\uFFFD')

def characters (grid : Grid) : List Char :=
  grid.rows.toList.flatMap fun row => row.toList.filter (· != '\uFFFD')

end Grid

end ApiTypings.Encoding
