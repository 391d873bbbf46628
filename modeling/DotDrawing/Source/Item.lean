import DotDrawing.Header
import DotDrawing.Statement.Basic
import DotDrawing.Statement.Split

/-!
The body of a source, line by line.

Every run that a `;` ends and that is not blank is a statement item. What a line has behind its last
`;` is an item too, if it counts for anything, but no statement. Items carry the number of their
line in the whole source.
-/

namespace DotDrawing

inductive Item.Content
  | statement (reading : Statement.Reading)
  | unterminated

structure Item where
  line : Nat
  text : String
  content : Item.Content

namespace Item

/-- The statement that the item holds, unless it was rejected. -/
def statement? (i : Item) : Option Statement :=
  match i.content with
  | .statement reading => reading.statement?
  | .unterminated => none

def ofRun? (kind : Graph.Kind) (line : Nat) (run : List Token) : Option Item :=
  if Token.sourceText run = "" then none
  else some ⟨line, Token.sourceText run, .statement (Statement.read kind run)⟩

def ofTrailing? (line : Nat) (run : List Token) : Option Item :=
  if run.any Piece.isSignificant then some ⟨line, Token.sourceText run, .unterminated⟩ else none

/-- The items of one line. -/
def ofLine (kind : Graph.Kind) (line : Nat) (ts : List Token) : List Item :=
  if Statement.isSkipped ts then []
  else
    let c := Statement.cut ts
    c.statements.filterMap (ofRun? kind line) ++ (ofTrailing? line c.trailing).toList

/-- The items of the lines from the one with the given number on. -/
def ofLines (kind : Graph.Kind) (line : Nat) : List (List Token) → List Item
  | [] => []
  | ts :: rest => ofLine kind line ts ++ ofLines kind (line + 1) rest

end Item

/-- A source as its header, if it has one, and its body. -/
structure Source where
  header? : Option Header
  /-- The number of the line on which the body starts. -/
  firstLine : Nat
  body : List Token

namespace Source

def ofTokens (ts : List Token) : Source :=
  match Header.find? ts with
  | some (header, body) => ⟨some header, ts.count .newline - body.count .newline + 1, body⟩
  | none => ⟨none, 1, ts⟩

def ofString (s : String) : Source := ofTokens (Token.ofString s)

/-- The graph while only the header has been read. -/
def start (s : Source) : Graph := (s.header?.map Header.graph).getD Graph.unnamed

def items (s : Source) : List Item :=
  Item.ofLines s.start.kind s.firstLine (s.body.splitOn .newline)

/-- The accepted statements of the body. -/
def statements (s : Source) : List Statement := s.items.filterMap Item.statement?

end Source

end DotDrawing
