import DotDrawing.Source.Builder

/-!
What is noted down while a source is read.

The notes follow the source: first the header, then each item of the body behind what was found
while it was read, and the size of the graph at the end. A node is noted when a statement names it
for the first time.
-/

namespace DotDrawing

/-- The node that is made when the id is registered, if it is new. -/
def Graph.found (g : Graph) (id : String) : List String := if g.hasNode id then [] else [id]

/-- The ends of an edge that are new, the source before the target. -/
def Graph.foundEnds (g : Graph) (source target : String) (nodeDefaults : Attributes) :
    List String :=
  g.found source ++ (g.ensureNode source nodeDefaults).1.found target

namespace Builder

/-- The nodes that are new while each id is joined to the next. -/
def foundAlong (g : Graph) (nodeDefaults attributes : Attributes) : List String → List String
  | a :: b :: ids =>
    g.foundEnds a b nodeDefaults ++
      foundAlong (g.addEdge a b nodeDefaults attributes).1 nodeDefaults attributes (b :: ids)
  | _ => []

/-- The nodes that a statement names for the first time. -/
def found (b : Builder) : Statement → List String
  | .edges ids attributes =>
    foundAlong b.graph b.nodeDefaults (b.edgeDefaults.merge attributes) ids
  | .node id _ => b.graph.found id
  | .defaults .. | .assignment .. => []

end Builder

inductive Event
  | header (h : Header)
  | noHeader
  | valuelessEntry (text : String)
  | keylessEntry (text : String)
  | nodeFound (id : String)
  | applied (line : Nat) (text : String) (statement : Statement)
  | rejected (line : Nat) (text : String) (reason : Statement.Rejection)
  | unterminated (line : Nat) (text : String)
  | finished (id : String) (strict : Bool) (nodes edges : Nat)
  deriving DecidableEq, Repr

namespace Event

inductive Level
  | info
  | debug
  | trace
  deriving DecidableEq, Repr

def Level.name : Level → String
  | info => "info"
  | debug => "debug"
  | trace => "trace"

/-- A value that is noted under a name. -/
inductive Field
  | text (s : String)
  | count (n : Nat)
  | flag (b : Bool)
  deriving DecidableEq, Repr

def level : Event → Level
  | header _ | noHeader | rejected .. | unterminated .. => .debug
  | finished .. => .info
  | valuelessEntry _ | keylessEntry _ | nodeFound _ | applied .. => .trace

def message : Event → String
  | header _ => "Detected graph header"
  | noHeader => "No graph header found, parsing as unnamed digraph"
  | valuelessEntry _ => "Dropping attribute without value"
  | keylessEntry _ => "Dropping attribute without key"
  | nodeFound _ => "Discovered node"
  | applied _ _ (.edges ..) => "Edge statement"
  | applied _ _ (.node ..) => "Node statement"
  | applied _ _ (.defaults ..) => "Defaults statement"
  | applied _ _ (.assignment ..) => "Graph attribute statement"
  | rejected .. => "Ignoring statement"
  | unterminated .. => "Ignoring statement without terminating semicolon"
  | finished .. => "Parsed graph"

def fields : Event → List (String × Field)
  | header h =>
    [("graph_id", .text h.id), ("kind", .text h.kind.word), ("strict", .flag h.strict)]
  | noHeader => []
  | valuelessEntry text | keylessEntry text => [("entry", .text text)]
  | nodeFound id => [("node_id", .text id)]
  | applied line text _ | unterminated line text =>
    [("line", .count line), ("statement", .text text)]
  | rejected line text reason =>
    [("line", .count line), ("statement", .text text), ("reason", .text reason.reason)]
  | finished id strict nodes edges =>
    [("graph_id", .text id), ("strict", .flag strict), ("node_count", .count nodes),
      ("edge_count", .count edges)]

def ofEntry? : AttributeList.Entry → Option Event
  | .pair .. => none
  | .valueless text => some (valuelessEntry text)
  | .keyless text => some (keylessEntry text)

/-- What is noted for one item, and the builder behind it. -/
def ofItem (b : Builder) (i : Item) : List Event × Builder :=
  match i.content with
  | .unterminated => ([unterminated i.line i.text], b)
  | .statement reading =>
    let dropped := reading.entries.filterMap ofEntry?
    match reading.outcome with
    | .error reason => (dropped ++ [rejected i.line i.text reason], b)
    | .ok statement =>
      (dropped ++ (b.found statement).map nodeFound ++ [applied i.line i.text statement],
        b.apply statement)

def ofItems (b : Builder) : List Item → List Event
  | [] => []
  | i :: is =>
    let (events, b) := ofItem b i
    events ++ ofItems b is

end Event

/-- All that is noted while the source is read. -/
def Source.events (s : Source) : List Event :=
  let first := match s.header? with
    | some h => .header h
    | none => .noHeader
  let g := s.graph
  first :: Event.ofItems (Builder.start s.start) s.items ++
    [.finished g.id g.strict g.nodeIds.length g.edges.length]

end DotDrawing
