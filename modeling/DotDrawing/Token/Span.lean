import DotDrawing.Token.Lexer

/-!
Where a token stands in the source.

A span counts the bytes of the source in UTF-8. Tokens follow one another without gaps, so their
spans follow from what they spell.
-/

namespace DotDrawing

/-- The bytes of the source from `start` on and before `stop`. -/
structure Span where
  start : Nat
  stop : Nat
  deriving DecidableEq, Repr

namespace Span

def empty : Span := ⟨0, 0⟩

def length (s : Span) : Nat := s.stop - s.start

def isEmpty (s : Span) : Bool := s.start == s.stop

/-- The least span around two spans. -/
def union (a b : Span) : Span := ⟨min a.start b.start, max a.stop b.stop⟩

/-- The least span around all of a list of spans. -/
def unionAll : List Span → Span
  | [] => empty
  | s :: ss => ss.foldl union s

def text (s : Span) : String := s!"{s.start}..{s.stop}"

end Span

/-- The number of bytes of a text in UTF-8. -/
def byteLength : List Char → Nat
  | [] => 0
  | c :: cs => c.utf8Size + byteLength cs

@[simp] theorem byteLength_nil : byteLength [] = 0 := rfl

@[simp] theorem byteLength_cons (c : Char) (cs : List Char) :
    byteLength (c :: cs) = c.utf8Size + byteLength cs := rfl

@[simp] theorem byteLength_append (as bs : List Char) :
    byteLength (as ++ bs) = byteLength as + byteLength bs := by
  induction as with
  | nil => simp
  | cons a as ih => simp [ih, Nat.add_assoc]

namespace Token

/-- The tokens with their spans, the first one starting at byte `start`. -/
def locate (start : Nat) : List Token → List (Token × Span)
  | [] => []
  | t :: ts =>
    let stop := start + byteLength t.spelling
    (t, ⟨start, stop⟩) :: locate stop ts

/-- The tokens of a source with their spans. -/
def located (s : String) : List (Token × Span) := locate 0 (ofString s)

@[simp] theorem map_fst_locate (start : Nat) (ts : List Token) :
    (locate start ts).map Prod.fst = ts := by
  induction ts generalizing start with
  | nil => rfl
  | cons t ts ih => simp [locate, ih]

end Token

end DotDrawing
