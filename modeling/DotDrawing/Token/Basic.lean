import DotDrawing.Text.Quoted
import DotDrawing.Text.Blank

/-!
Tokens of the graph language.

A token determines the characters that spell it, so the text of a run of tokens is read off the
run. Keywords are identifiers; letter case does not matter in them.
-/

namespace DotDrawing

inductive Token
  | identifier (name : String)
  | numeral (digits : String)
  | quoted (text : String)
  | directedEdge
  | undirectedEdge
  | leftBrace
  | rightBrace
  | leftBracket
  | rightBracket
  | semicolon
  | comma
  | equals
  | colon
  | lineComment (text : String)
  | blockComment (text : String)
  | blank (text : String)
  | newline
  | unknown (c : Char)
  deriving DecidableEq, Repr

inductive Keyword
  | strict
  | graph
  | digraph
  | subgraph
  | node
  | edge
  deriving DecidableEq, Repr

namespace Keyword

def all : List Keyword := [strict, graph, digraph, subgraph, node, edge]

def word : Keyword → String
  | strict => "strict"
  | graph => "graph"
  | digraph => "digraph"
  | subgraph => "subgraph"
  | node => "node"
  | edge => "edge"

def ofWord? (name : String) : Option Keyword := all.find? fun k => Text.sameWord k.word name

end Keyword

namespace Token

/-- The characters of the source that the token stands for. -/
def spelling : Token → List Char
  | identifier name => name.toList
  | numeral digits => digits.toList
  | quoted text => Text.quote text.toList
  | directedEdge => ['-', '>']
  | undirectedEdge => ['-', '-']
  | leftBrace => ['{']
  | rightBrace => ['}']
  | leftBracket => ['[']
  | rightBracket => [']']
  | semicolon => [';']
  | comma => [',']
  | equals => ['=']
  | colon => [':']
  | lineComment text => '/' :: '/' :: text.toList
  | blockComment text => '/' :: '*' :: (text.toList ++ ['*', '/'])
  | blank text => text.toList
  | newline => ['\n']
  | unknown c => [c]

/-- The token as shown to a reader: white space is one space, a newline is written out, and a
quoted text stands between its quotes without escapes. -/
def display : Token → String
  | quoted text => "\"" ++ text ++ "\""
  | blank _ => " "
  | newline => "\\n"
  | t => String.ofList t.spelling

/-- White space and comments, which separate the other tokens and mean nothing. -/
def isTrivia : Token → Bool
  | blank _ | lineComment _ | blockComment _ => true
  | _ => false

/-- The id that the token spells, if it can be one. -/
def id? : Token → Option String
  | identifier name => some name
  | numeral digits => some digits
  | quoted text => some text
  | _ => none

def keyword? : Token → Option Keyword
  | identifier name => Keyword.ofWord? name
  | _ => none

/-- The characters of a run of tokens. -/
def spellings (ts : List Token) : List Char := ts.flatMap spelling

/-- The source text of a run of tokens, without white space at its ends. -/
def sourceText (ts : List Token) : String := String.ofList (Text.trim (spellings ts))

@[simp] theorem spellings_nil : spellings [] = [] := rfl

@[simp] theorem spellings_cons (t : Token) (ts : List Token) :
    spellings (t :: ts) = t.spelling ++ spellings ts := rfl

@[simp] theorem spellings_append (ts us : List Token) :
    spellings (ts ++ us) = spellings ts ++ spellings us := by
  simp [spellings]

@[simp] theorem sourceText_nil : sourceText [] = "" := rfl

end Token

end DotDrawing
