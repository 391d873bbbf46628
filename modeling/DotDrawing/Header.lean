import DotDrawing.Graph.Basic
import DotDrawing.Token.Lexer

/-!
The header of a graph.

A header is an optional `strict`, then `graph` or `digraph`, then an optional id, then `{`, with
white space, comments and newlines anywhere between. `find?` takes the first one that does not start
on a line whose first mark is `#`.
-/

namespace DotDrawing

structure Header where
  kind : Graph.Kind
  strict : Bool
  id : String
  deriving DecidableEq, Repr

namespace Header

/-- A graph that has a header and nothing else. -/
def graph (h : Header) : Graph := Graph.empty h.kind h.strict h.id

/-- The tokens without the white space, comments and newlines in front. -/
def skipGap (ts : List Token) : List Token := ts.dropWhile fun t => t.isTrivia || t == .newline

def afterStrict (ts : List Token) : Bool × List Token :=
  match ts with
  | t :: rest => if t.keyword? = some .strict then (true, skipGap rest) else (false, ts)
  | [] => (false, [])

def kind? (ts : List Token) : Option (Graph.Kind × List Token) :=
  match ts with
  | t :: rest =>
    match t.keyword? with
    | some .digraph => some (.directed, skipGap rest)
    | some .graph => some (.undirected, skipGap rest)
    | _ => none
  | [] => none

def afterId (ts : List Token) : String × List Token :=
  match ts with
  | t :: rest =>
    match t.id? with
    | some id => (id, skipGap rest)
    | none => (Graph.defaultId, ts)
  | [] => (Graph.defaultId, [])

/-- The header that starts with the first token, and the tokens of the body behind it. -/
def match? (ts : List Token) : Option (Header × List Token) :=
  let (strict, ts) := afterStrict ts
  match kind? ts with
  | none => none
  | some (kind, ts) =>
    let (id, ts) := afterId ts
    match ts with
    | .leftBrace :: body => some (⟨kind, strict, id⟩, body)
    | _ => none

/-- Where the search stands in its line. -/
inductive Place
  /-- Only white space so far. -/
  | start
  /-- Behind a `#` that is the first mark of the line. -/
  | hash
  | inside
  deriving DecidableEq, Repr

/-- The first header from here on. -/
def findFrom? : Place → List Token → Option (Header × List Token)
  | _, [] => none
  | _, .newline :: ts => findFrom? .start ts
  | .hash, _ :: ts => findFrom? .hash ts
  | place, .blank _ :: ts => findFrom? place ts
  | .start, .unknown '#' :: ts => findFrom? .hash ts
  | _, t :: ts =>
    match match? (t :: ts) with
    | some found => some found
    | none => findFrom? .inside ts

/-- The header of a source, and the tokens of the body behind it. -/
def find? (ts : List Token) : Option (Header × List Token) := findFrom? .start ts

end Header

end DotDrawing
