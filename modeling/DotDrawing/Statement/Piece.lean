import DotDrawing.Token.Basic

/-!
The pieces of a statement.

White space, comments and closing braces play no part in a statement. A `[` opens a list of
attributes that runs to the next `]`; all other tokens are words of the statement.
-/

namespace DotDrawing

inductive Piece
  | word (t : Token)
  /-- The tokens between a `[` and the next `]`. -/
  | list (inside : List Token)
  /-- A `[` without a `]` behind it. -/
  | unclosed
  deriving DecidableEq, Repr

namespace Piece

/-- The tokens that count in a statement. -/
def isSignificant (t : Token) : Bool := !t.isTrivia && t != .rightBrace

/-- The pieces of a run of tokens. -/
def ofTokens : List Token → List Piece
  | [] => []
  | t :: ts =>
    if t = .leftBracket then
      match _h : ts.dropWhile (· ≠ .rightBracket) with
      | [] => [unclosed]
      | _ :: rest => list (ts.takeWhile (· ≠ .rightBracket)) :: ofTokens rest
    else if isSignificant t then word t :: ofTokens ts
    else ofTokens ts
  termination_by ts => ts.length
  decreasing_by
    · have := (List.dropWhile_sublist (· ≠ Token.rightBracket) (l := ts)).length_le
      rw [_h] at this
      simp only [List.length_cons] at *
      omega
    · simp
    · simp

end Piece

end DotDrawing
