/-!
# Plain words for a terminal

What is said to a user holds no colours: sequences that would change the look of
a terminal are taken out. Such a sequence is an escape character, an opening
bracket, parameters, and the letter that ends it. And a line ends in a line feed
alone.
-/

namespace ApiTypings.CommandLine

/-- A character of the parameters of a sequence. -/
def isStyleParameter (c : Char) : Bool := c.isDigit || c == ';' || c == '?'

/-- The text without its sequences. One that no letter ends is left as it is. -/
def unstyleChars : List Char → List Char
  | [] => []
  | '\x1b' :: '[' :: rest =>
    match h : rest.dropWhile isStyleParameter with
    | [] => '\x1b' :: '[' :: rest
    | c :: more =>
      have : more.length ≤ rest.length := by
        have := (List.dropWhile_sublist (p := isStyleParameter) (l := rest)).length_le
        rw [h] at this
        exact Nat.le_of_succ_le this
      if c.isAlpha then unstyleChars more else '\x1b' :: unstyleChars ('[' :: rest)
  | c :: rest => c :: unstyleChars rest
termination_by cs => cs.length

def unstyle (s : String) : String := String.ofList (unstyleChars s.toList)

/-- The text with every line end of two characters as a line feed. -/
def joinLineEnds : List Char → List Char
  | '\r' :: '\n' :: rest => '\n' :: joinLineEnds rest
  | c :: rest => c :: joinLineEnds rest
  | [] => []

def spoken (words : String) : String := String.ofList (joinLineEnds words.toList)

end ApiTypings.CommandLine
