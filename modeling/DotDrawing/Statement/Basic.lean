import DotDrawing.AttributeList
import DotDrawing.Statement.Piece

/-!
Statements and how they are told apart.

A statement joins nodes, describes a node, sets defaults or sets a graph attribute. Keywords in any
letter case are no ids, except behind the `=` of an assignment. What fits none of these forms is
rejected with the reason.
-/

namespace DotDrawing

/-- What a defaults statement is about. -/
inductive Target
  | node
  | edge
  | graph
  deriving DecidableEq, Repr

inductive Statement
  /-- Edges from each id to the next. -/
  | edges (ids : List String) (attributes : Attributes)
  | node (id : String) (attributes : Attributes)
  | defaults (target : Target) (attributes : Attributes)
  | assignment (key value : String)
  deriving DecidableEq, Repr

namespace Statement

inductive Rejection
  | empty
  | subgraph
  | reservedId
  | noId
  | wrongOperator
  | noTarget
  | noValue
  | unexpectedList
  | unclosedList
  | unexpectedToken
  | bareNode
  | incomplete
  deriving DecidableEq, Repr

def Rejection.reason : Rejection → String
  | empty => "empty statement"
  | subgraph => "subgraphs are not supported"
  | reservedId => "reserved keyword used as an id"
  | noId => "statement does not start with an id"
  | wrongOperator => "edge operator does not match the graph kind"
  | noTarget => "edge operator without a target id"
  | noValue => "assignment without a value"
  | unexpectedList => "unexpected attribute list"
  | unclosedList => "unclosed attribute list"
  | unexpectedToken => "unexpected token"
  | bareNode => "node statement without an attribute list"
  | incomplete => "incomplete statement"

/-- What a statement was read as. -/
structure Reading where
  /-- The entries of the attribute list that was read, also when the statement is rejected. -/
  entries : List AttributeList.Entry
  outcome : Except Rejection Statement

def Reading.reject (r : Rejection) : Reading := ⟨[], .error r⟩

def Reading.statement? (r : Reading) : Option Statement := r.outcome.toOption

/-- The part of a statement in front of its attribute list. -/
inductive Head
  | ids (first : String) (more : List String)
  | defaults (target : Target)
  deriving DecidableEq, Repr

/-- The statement of a head with an attribute list. -/
def Head.withList : Head → Attributes → Statement
  | ids id [], attributes => .node id attributes
  | ids id more, attributes => .edges (id :: more) attributes
  | defaults target, attributes => .defaults target attributes

/-- The statement of a head alone. -/
def Head.alone : Head → Except Rejection Statement
  | ids _ [] => .error .bareNode
  | ids id more => .ok (.edges (id :: more) ∅)
  | defaults _ => .error .incomplete

/-- A whole statement, if no piece is left. -/
def ending (s : Statement) : List Piece → Except Rejection Statement
  | [] => .ok s
  | .word _ :: _ => .error .unexpectedToken
  | _ :: _ => .error .unexpectedList

/-- A head and the pieces behind it. -/
def close (head : Head) : List Piece → Reading
  | [] => ⟨[], head.alone⟩
  | .word _ :: _ => .reject .unexpectedToken
  | .unclosed :: _ => .reject .unclosedList
  | .list inside :: rest =>
    let entries := AttributeList.entries inside
    ⟨entries, ending (head.withList (AttributeList.attributes entries)) rest⟩

/-- The operator between the nodes of an edge. -/
def operator : Graph.Kind → Token
  | .directed => .directedEdge
  | .undirected => .undirectedEdge

def isOperator (t : Token) : Bool := t == .directedEdge || t == .undirectedEdge

/-- The id that a token spells, if it is not a keyword. -/
def freeId? (t : Token) : Option String := if t.keyword?.isSome then none else t.id?

/-- A chain of ids with operators between them, from behind its last id so far. -/
def chain (kind : Graph.Kind) (first : String) (more : List String) : List Piece → Reading
  | .word op :: .word t :: rest =>
    if isOperator op then
      if op = operator kind then
        match freeId? t with
        | some id => chain kind first (more ++ [id]) rest
        | none => .reject .noTarget
      else .reject .wrongOperator
    else .reject .unexpectedToken
  | .word op :: rest =>
    if isOperator op then
      if op = operator kind then
        .reject (if rest.isEmpty then .incomplete else .unexpectedList)
      else .reject .wrongOperator
    else .reject .unexpectedToken
  | rest => close (.ids first more) rest

/-- What follows the `=` behind a key. -/
def assign (key : String) : List Piece → Reading
  | [] => .reject .incomplete
  | .word t :: rest =>
    match t.id? with
    | some value => ⟨[], ending (.assignment key value) rest⟩
    | none => .reject .noValue
  | _ :: _ => .reject .unexpectedList

/-- What follows the first id of a statement. -/
def afterId (kind : Graph.Kind) (id : String) : List Piece → Reading
  | .word .equals :: rest => assign id rest
  | rest => chain kind id [] rest

/-- Reads the pieces of one statement of a graph of the kind. -/
def classify (kind : Graph.Kind) : List Piece → Reading
  | [] => .reject .empty
  | .word t :: rest =>
    match t.keyword? with
    | some .subgraph => .reject .subgraph
    | some .node => close (.defaults .node) rest
    | some .edge => close (.defaults .edge) rest
    | some .graph => close (.defaults .graph) rest
    | some _ => .reject .reservedId
    | none =>
      match t.id? with
      | some id => afterId kind id rest
      | none => .reject .noId
  | _ :: _ => .reject .unexpectedList

def read (kind : Graph.Kind) (ts : List Token) : Reading := classify kind (Piece.ofTokens ts)

end Statement

end DotDrawing
