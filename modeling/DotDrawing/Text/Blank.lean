/-!
White space and trimming.

A character is blank when it has the Unicode property `White_Space`. Trimming removes the blank
characters at the ends of a text and nothing else.
-/

namespace DotDrawing.Text

/-- The characters with the Unicode property `White_Space`. -/
def isBlank (c : Char) : Bool :=
  let n := c.toNat
  (9 ≤ n && n ≤ 13) || n == 0x20 || n == 0x85 || n == 0xA0 || n == 0x1680 ||
    (0x2000 ≤ n && n ≤ 0x200A) || n == 0x2028 || n == 0x2029 || n == 0x202F || n == 0x205F ||
    n == 0x3000

def trimStart (cs : List Char) : List Char := cs.dropWhile isBlank

def trimEnd (cs : List Char) : List Char := (cs.reverse.dropWhile isBlank).reverse

/-- The text without the blank characters at its ends. -/
def trim (cs : List Char) : List Char := trimEnd (trimStart cs)

def trimmed (s : String) : String := String.ofList (trim s.toList)

/-- Equality of two words up to the case of ASCII letters. -/
def sameWord (a b : String) : Bool := a.toList.map Char.toLower == b.toList.map Char.toLower

end DotDrawing.Text
