/-!
# Cutting and joining text

A text is cut at every occurrence of one character, and the pieces can be put
back together. Work is done on lists of characters; `split` and `join` are the
same operations on strings.
-/

namespace ApiTypings.Text

def pushFirst (c : Char) : List (List Char) → List (List Char)
  | [] => [[c]]
  | piece :: pieces => (c :: piece) :: pieces

/-- The pieces of `cs` between occurrences of `sep`: one more than there are
separators, so an empty text has one empty piece. -/
def pieces (sep : Char) (cs : List Char) : List (List Char) :=
  cs.foldr (fun c acc => if c = sep then [] :: acc else pushFirst c acc) [[]]

@[simp] theorem pieces_nil (sep : Char) : pieces sep [] = [[]] := rfl

theorem pieces_cons (sep c : Char) (cs : List Char) :
    pieces sep (c :: cs) =
      if c = sep then [] :: pieces sep cs else pushFirst c (pieces sep cs) := rfl

theorem pieces_ne_nil (sep : Char) (cs : List Char) : pieces sep cs ≠ [] := by
  cases cs with
  | nil => simp
  | cons c cs =>
    rw [pieces_cons]
    split
    · simp
    · cases pieces sep cs <;> simp [pushFirst]

/-- The pieces of a string between occurrences of `sep`. -/
def split (sep : Char) (s : String) : List String :=
  (pieces sep s.toList).map String.ofList

def join (sep : String) (parts : List String) : String :=
  String.ofList (List.intercalate sep.toList (parts.map String.toList))

/-- The lines of a text; a final line feed is followed by one more, empty line. -/
def lines (s : String) : List String := split '\n' s

/-- What follows `start` in `cs`, when `cs` begins with it. -/
def dropStart? : (start cs : List Char) → Option (List Char)
  | [], cs => some cs
  | _ :: _, [] => none
  | a :: start, c :: cs => if a = c then dropStart? start cs else none

/-- What follows `start` in `s`, when `s` begins with it. -/
def afterPrefix? (start s : String) : Option String :=
  (dropStart? start.toList s.toList).map String.ofList

def startsWith (start s : String) : Bool := (afterPrefix? start s).isSome

def hasChar (c : Char) (s : String) : Bool := s.toList.contains c

def occursIn (part : List Char) : List Char → Bool
  | [] => part.isEmpty
  | c :: cs => (dropStart? part (c :: cs)).isSome || occursIn part cs

def octets (s : String) : Nat := s.utf8ByteSize

end ApiTypings.Text
