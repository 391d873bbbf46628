import DotDrawing.Source.Item

/-!
The graph that a source describes.

Statements are applied in order. Defaults for nodes reach the nodes that are new after them, and
defaults for edges lie under the attributes of every later edge statement.
-/

namespace DotDrawing

/-- A graph in the making, with the defaults in force. -/
structure Builder where
  graph : Graph
  nodeDefaults : Attributes
  edgeDefaults : Attributes
  deriving DecidableEq, Repr

namespace Builder

def start (g : Graph) : Builder := ⟨g, ∅, ∅⟩

/-- Joins each id to the next, all edges having the same attributes. -/
def joinChain (g : Graph) (nodeDefaults attributes : Attributes) : List String → Graph
  | a :: b :: ids =>
    joinChain (g.addEdge a b nodeDefaults attributes).1 nodeDefaults attributes (b :: ids)
  | _ => g

def apply (b : Builder) : Statement → Builder
  | .edges ids attributes =>
    { b with graph := joinChain b.graph b.nodeDefaults (b.edgeDefaults.merge attributes) ids }
  | .node id attributes => { b with graph := b.graph.upsertNode id b.nodeDefaults attributes }
  | .defaults .node attributes => { b with nodeDefaults := b.nodeDefaults.merge attributes }
  | .defaults .edge attributes => { b with edgeDefaults := b.edgeDefaults.merge attributes }
  | .defaults .graph attributes => { b with graph := b.graph.mergeAttributes attributes }
  | .assignment key value =>
    { b with graph := b.graph.mergeAttributes (Dict.ofList [(key, value)]) }

def applyAll (b : Builder) (statements : List Statement) : Builder := statements.foldl apply b

end Builder

def Source.graph (s : Source) : Graph := ((Builder.start s.start).applyAll s.statements).graph

/-- The graph that a text describes. Every text describes one. -/
def Graph.parse (s : String) : Graph := (Source.ofString s).graph

end DotDrawing
