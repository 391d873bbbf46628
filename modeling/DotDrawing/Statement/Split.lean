import DotDrawing.Statement.Piece

/-!
The statements of a line.

A line is cut at every `;` that is not inside brackets. The depth of brackets counts from the start
of the line and does not fall below zero.
-/

namespace DotDrawing.Statement

/-- The depth of brackets behind a token. -/
def depthAfter (depth : Nat) : Token → Nat
  | .leftBracket => depth + 1
  | .rightBracket => depth - 1
  | _ => depth

/-- The runs that a `;` ends, without it, and the run behind the last one. -/
structure Cut where
  statements : List (List Token)
  trailing : List Token
  deriving DecidableEq, Repr

/-- The cut of a line that starts with one more token, which ends no statement. -/
def Cut.push (t : Token) : Cut → Cut
  | ⟨[], trailing⟩ => ⟨[], t :: trailing⟩
  | ⟨s :: ss, trailing⟩ => ⟨(t :: s) :: ss, trailing⟩

/-- The cut of a line from a place where the brackets have the depth. -/
def cutFrom (depth : Nat) : List Token → Cut
  | [] => ⟨[], []⟩
  | t :: ts =>
    if t = .semicolon ∧ depth = 0 then
      let c := cutFrom depth ts
      ⟨[] :: c.statements, c.trailing⟩
    else (cutFrom (depthAfter depth t) ts).push t

def cut (line : List Token) : Cut := cutFrom 0 line

/-- Blank lines and lines that start with a line comment or `#` hold no statements. -/
def isSkipped (line : List Token) : Bool :=
  match line.dropWhile fun t => t matches .blank _ with
  | [] | .lineComment _ :: _ | .unknown '#' :: _ => true
  | _ => false

end DotDrawing.Statement
