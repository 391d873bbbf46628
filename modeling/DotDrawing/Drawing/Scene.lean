import DotDrawing.Config.Basic
import DotDrawing.Drawing.Shape
import DotDrawing.Geometry.Route

/-!
The drawing of a graph.

A scene is a graph with places for its nodes and routes for its edges. Its drawing has the
background first, then the edges, then the nodes, each in the order of the graph. A node without a
place and an edge without a route are left out.
-/

namespace DotDrawing

structure Scene where
  graph : Graph
  positions : Dict Point
  /-- A route for each edge, in the order of the edges. -/
  routes : List (Option Route)

namespace Scene

open Markup (Element)

def edgeColor : String := "black"

def edgeWidth : Float32 := 1.5

def defaultFill : String := "#e3f2fd"

def defaultStroke : String := "#2196f3"

def fontSize : Float32 := 12

/-- How far below the center of a node the foot of its label stands. -/
def baseline : Float32 := 5

def position? (s : Scene) (id : String) : Option Point := s.positions.get? id

/-- A color without the characters that mean something inside markup. -/
def plainColor (color : String) : String :=
  String.ofList <| color.toList.filter fun c =>
    !(c == '"' || c == '\'' || c == '<' || c == '>' || c == '&')

/-- A text with the middle of its foot at the anchor. -/
def caption (content : String) (anchor : Point) : Element :=
  .label "text"
    [("font-size", Decimal.text fontSize), ("text-anchor", "middle"),
      ("x", Decimal.text anchor.x), ("y", Decimal.text anchor.y)] content

def background (config : Config) (s : Scene) : Element :=
  let color := (s.graph.attributes.get? "bgcolor").getD config.style.background
  .node "rect" [("fill", plainColor color), ("height", "100%"), ("width", "100%")] []

def line (r : Route) : Element :=
  .node "path"
    [("d", "M" ++ r.start.text ++ " L" ++ r.stop.text), ("stroke", edgeColor),
      ("stroke-width", Decimal.text edgeWidth)] []

def arrowhead (a : Arrowhead) : Element :=
  .node "polygon" [("fill", edgeColor), ("points", pointsText a.points)] []

def edgeLabel? (e : Edge) (r : Route) : Option Element :=
  match e.label?, r.labelAnchor? with
  | some label, some anchor => some (caption label anchor)
  | _, _ => none

def edge (e : Edge) (r : Route) : Element :=
  .node "g" [("class", "edge")]
    (line r :: ((r.arrowhead?.map arrowhead).toList ++ (edgeLabel? e r).toList))

def fill (n : Node) : String :=
  ((n.attributes.get? "fillcolor").or (n.attributes.get? "color")).getD defaultFill

def stroke (n : Node) : String := (n.attributes.get? "color").getD defaultStroke

def shape (n : Node) : Shape := Shape.ofAttribute (n.attributes.get? "shape")

def node (config : Config) (n : Node) (center : Point) : Element :=
  .node "g" [("class", "node")]
    [(shape n).outline center config.style.nodeRadius (plainColor (fill n))
        (plainColor (stroke n)),
      caption n.label ⟨center.x, center.y + baseline⟩]

def edges (s : Scene) : List Element :=
  (s.graph.edges.zip s.routes).filterMap fun (e, r?) => r?.map (edge e)

def nodes (config : Config) (s : Scene) : List Element :=
  s.graph.nodes.filterMap fun n => (s.position? n.id).map (node config n)

/-- The document that shows the scene. -/
def drawing (config : Config) (s : Scene) : Element :=
  .node "svg"
    [("height", Decimal.text config.canvas.height), ("viewBox", config.canvas.viewBox),
      ("width", Decimal.text config.canvas.width), ("xmlns", "http://www.w3.org/2000/svg")]
    [s.background config, .node "g" [("class", "edges")] s.edges,
      .node "g" [("class", "nodes")] (s.nodes config)]

end Scene

namespace Config

def router (c : Config) : Router := ⟨c.style.nodeRadius, c.style.arrowSize⟩

/-- The route of an edge between nodes that have places. -/
def routeOf? (c : Config) (g : Graph) (positions : Dict Point) (e : Edge) : Option Route := do
  let source ← positions.get? e.source
  let target ← positions.get? e.target
  c.router.route? source target g.kind.isDirected e.label?.isSome

/-- The scene of a graph: its nodes on the circle and its edges straight between them. -/
def scene (c : Config) (g : Graph) : Scene :=
  let positions := c.circle.place g
  ⟨g, positions, g.edges.map (c.routeOf? g positions)⟩

/-- The text of the drawing of a graph, if the settings can be used. -/
def draw (c : Config) (g : Graph) : Except Fault String := do
  c.check
  return ((c.scene g).drawing c).text

end Config

end DotDrawing
