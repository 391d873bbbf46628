import DotDrawing.Dict.Basic

/-!
Graphs with their attributes.

Nodes stand in the order in which they were first named and edges in the order in which they were
declared. An edge names its ends by id; `addEdge` registers the ends that are new. In a strict graph
an edge between ends that are already joined gives its attributes to the edge that joins them.
-/

namespace DotDrawing

/-- Attribute values as written in the source, by attribute name. -/
abbrev Attributes := Dict String

/-- The text drawn for a `label` attribute. An empty label counts as none. -/
def Attributes.label? (a : Attributes) : Option String := (a.get? "label").filter (· ≠ "")

inductive Graph.Kind
  | directed
  | undirected
  deriving DecidableEq, Repr

/-- The header word of graphs of the kind. -/
def Graph.Kind.word : Graph.Kind → String
  | directed => "digraph"
  | undirected => "graph"

def Graph.Kind.isDirected (kind : Graph.Kind) : Bool := kind == .directed

structure Node where
  id : String
  attributes : Attributes
  deriving DecidableEq, Repr

/-- The text drawn in the node: its label, or else its id. -/
def Node.label (n : Node) : String := n.attributes.label?.getD n.id

structure Edge where
  source : String
  target : String
  attributes : Attributes
  deriving DecidableEq, Repr

namespace Edge

def label? (e : Edge) : Option String := e.attributes.label?

/-- The edge joins `source` and `target`, in this order if edges have a direction. -/
def joins (e : Edge) (kind : Graph.Kind) (source target : String) : Bool :=
  (e.source == source && e.target == target) ||
    (kind == .undirected && e.source == target && e.target == source)

/-- The edges after the first one that joins the ends has taken `more` into its attributes, or
nothing when no edge joins them. -/
def absorb? (kind : Graph.Kind) (source target : String) (more : Attributes) :
    List Edge → Option (List Edge)
  | [] => none
  | e :: es =>
    if e.joins kind source target then some ({ e with attributes := e.attributes.merge more } :: es)
    else (absorb? kind source target more es).map (e :: ·)

end Edge

structure Graph where
  kind : Graph.Kind
  strict : Bool
  id : String
  attributes : Attributes
  /-- The attributes of each node, by node id. -/
  nodeAttributes : Dict Attributes
  edges : List Edge
  deriving DecidableEq, Repr

namespace Graph

/-- The id of a graph whose header gives none. -/
def defaultId : String := "G"

def empty (kind : Kind) (strict : Bool) (id : String) : Graph := ⟨kind, strict, id, ∅, ∅, []⟩

/-- The graph of a source without a header, while nothing has been read. -/
def unnamed : Graph := empty .directed false defaultId

instance : Inhabited Graph := ⟨unnamed⟩

def nodes (g : Graph) : List Node := g.nodeAttributes.entries.map fun e => ⟨e.1, e.2⟩

def nodeIds (g : Graph) : List String := g.nodeAttributes.keys

def node? (g : Graph) (id : String) : Option Node := (g.nodeAttributes.get? id).map (⟨id, ·⟩)

def hasNode (g : Graph) (id : String) : Bool := g.nodeAttributes.contains id

def mergeAttributes (g : Graph) (incoming : Attributes) : Graph :=
  { g with attributes := g.attributes.merge incoming }

/-- Registers a node with the default attributes unless it is known. The answer tells whether the
node is new. -/
def ensureNode (g : Graph) (id : String) (defaults : Attributes) : Graph × Bool :=
  if g.hasNode id then (g, false)
  else ({ g with nodeAttributes := g.nodeAttributes.insert id defaults }, true)

/-- Merges attributes into those of a node. A new node starts from the defaults. -/
def upsertNode (g : Graph) (id : String) (defaults attributes : Attributes) : Graph :=
  let old := (g.nodeAttributes.get? id).getD defaults
  { g with nodeAttributes := g.nodeAttributes.insert id (old.merge attributes) }

/-- The edges after one more call for an edge, and whether a new edge was made. -/
def joinedEdges (g : Graph) (source target : String) (attributes : Attributes) :
    List Edge × Bool :=
  match if g.strict then Edge.absorb? g.kind source target attributes g.edges else none with
  | some edges => (edges, false)
  | none => (g.edges ++ [⟨source, target, attributes⟩], true)

/-- Joins two nodes, which are registered first, the source before the target. The answer tells
whether the graph has one more edge than before. -/
def addEdge (g : Graph) (source target : String) (nodeDefaults attributes : Attributes) :
    Graph × Bool :=
  let g := ((g.ensureNode source nodeDefaults).1.ensureNode target nodeDefaults).1
  let (edges, isNew) := g.joinedEdges source target attributes
  ({ g with edges }, isNew)

/-- The same attributes in any order. -/
def sameAttributes (a b : Attributes) : Bool := a.sameBy (· == ·) b

/-- The same graph up to the order of nodes and of attributes. The order of edges counts. -/
def same (g h : Graph) : Bool :=
  g.kind == h.kind && g.strict == h.strict && g.id == h.id &&
    sameAttributes g.attributes h.attributes &&
    g.nodeAttributes.sameBy sameAttributes h.nodeAttributes &&
    g.edges.length == h.edges.length &&
    (g.edges.zip h.edges).all fun (e, f) =>
      e.source == f.source && e.target == f.target && sameAttributes e.attributes f.attributes

end Graph

end DotDrawing
