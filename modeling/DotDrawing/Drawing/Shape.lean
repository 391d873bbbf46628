import DotDrawing.Geometry.Point
import DotDrawing.Markup.Element

/-!
Outlines of nodes.

The shape of a node is one of three, all of them sized by one radius. Any word that names no other
shape stands for an ellipse.
-/

namespace DotDrawing

inductive Shape
  | rectangle
  | diamond
  | ellipse
  deriving DecidableEq, Repr

namespace Shape

def ofAttribute : Option String → Shape
  | some "box" | some "rect" | some "rectangle" => rectangle
  | some "diamond" => diamond
  | _ => ellipse

def strokeWidth : Float32 := 1.5

def cornerRadius : Float32 := 3

/-- Half of a diagonal of a diamond, for a radius of one. -/
def diamondScale : Float32 := 1.4

/-- The corners of a diamond, clockwise from the top. -/
def diamondCorners (center : Point) (radius : Float32) : List Point :=
  let half := radius * diamondScale
  [⟨center.x, center.y - half⟩, ⟨center.x + half, center.y⟩, ⟨center.x, center.y + half⟩,
    ⟨center.x - half, center.y⟩]

def outline (shape : Shape) (center : Point) (radius : Float32) (fill stroke : String) :
    Markup.Element :=
  match shape with
  | rectangle =>
    .node "rect"
      [("fill", fill), ("height", Decimal.text (radius * 2)), ("rx", Decimal.text cornerRadius),
        ("ry", Decimal.text cornerRadius), ("stroke", stroke),
        ("stroke-width", Decimal.text strokeWidth), ("width", Decimal.text (radius * 2)),
        ("x", Decimal.text (center.x - radius)), ("y", Decimal.text (center.y - radius))] []
  | diamond =>
    .node "polygon"
      [("fill", fill), ("points", pointsText (diamondCorners center radius)), ("stroke", stroke),
        ("stroke-width", Decimal.text strokeWidth)] []
  | ellipse =>
    .node "ellipse"
      [("cx", Decimal.text center.x), ("cy", Decimal.text center.y), ("fill", fill),
        ("rx", Decimal.text radius), ("ry", Decimal.text radius), ("stroke", stroke),
        ("stroke-width", Decimal.text strokeWidth)] []

end Shape

end DotDrawing
