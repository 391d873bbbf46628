import DotDrawing.Text.Blank

/-!
Output formats.
-/

namespace DotDrawing

inductive Format
  | svg
  deriving DecidableEq, Repr

/-- The format that a word names, whatever its letter case and the white space around it. -/
def Format.ofWord? (s : String) : Option Format :=
  if Text.sameWord (Text.trimmed s) "svg" then some .svg else none

end DotDrawing
