import DotDrawing.Graph.Basic
import DotDrawing.Token.Lexer

/-!
Attribute lists.

A list is a run of entries between commas or semicolons. An entry is split at its first `=`; a side
that is a lone quoted text stands for what it quotes, and any other side for its source text. An
entry without `=` or without a key says nothing.
-/

namespace DotDrawing.AttributeList

inductive Entry
  | pair (key value : String)
  /-- An entry without `=`. -/
  | valueless (text : String)
  /-- An entry with nothing before its `=`. -/
  | keyless (text : String)
  deriving DecidableEq, Repr

def isSeparator (t : Token) : Bool := t == .comma || t == .semicolon

/-- What one side of an `=` stands for. -/
def side (ts : List Token) : String :=
  match ts.filter (!·.isTrivia) with
  | [.quoted text] => text
  | _ => Token.sourceText ts

/-- The entry that a run of tokens makes, if it is not blank. -/
def entry? (ts : List Token) : Option Entry :=
  match ts.dropWhile (· ≠ .equals) with
  | [] => if Token.sourceText ts = "" then none else some (.valueless (Token.sourceText ts))
  | _ :: after =>
    let key := side (ts.takeWhile (· ≠ .equals))
    if key = "" then some (.keyless (Token.sourceText ts)) else some (.pair key (side after))

def entries (ts : List Token) : List Entry := (ts.splitOnP isSeparator).filterMap entry?

def Entry.pair? : Entry → Option (String × String)
  | .pair key value => some (key, value)
  | _ => none

/-- The attributes that a list of entries sets, the last one counting for each key. -/
def attributes (es : List Entry) : Attributes := Dict.ofList (es.filterMap Entry.pair?)

def read (ts : List Token) : Attributes := attributes (entries ts)

/-- The attributes of a text that stands between `[` and `]`. -/
def parse (s : String) : Attributes := read (Token.ofString s)

end DotDrawing.AttributeList
