/-!
# White space

The characters that count as white space when text is trimmed: the white space
of Unicode together with the four information separators U+001C to U+001F.
-/

namespace ApiTypings.Text

/-- White space in the sense of Unicode, with the information separators. -/
def isBlank (c : Char) : Bool :=
  let n := c.toNat
  (9 ≤ n && n ≤ 13) || (28 ≤ n && n ≤ 32) || n == 0x85 || n == 0xA0 || n == 0x1680 ||
    (0x2000 ≤ n && n ≤ 0x200A) || n == 0x2028 || n == 0x2029 || n == 0x202F || n == 0x205F ||
    n == 0x3000

def trimEnd (cs : List Char) : List Char := (cs.reverse.dropWhile isBlank).reverse

def trimStart (cs : List Char) : List Char := cs.dropWhile isBlank

end ApiTypings.Text
