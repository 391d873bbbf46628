import DotDrawing.Geometry.Point
import DotDrawing.Graph.Basic

/-!
Nodes on a circle.

The first node stands to the right of the center and the others follow clockwise at equal angles.
Only the order of the nodes matters.
-/

namespace DotDrawing

structure Circle where
  center : Point
  radius : Float32
  deriving DecidableEq

namespace Circle

/-- A full turn. -/
def turn : Float := 6.283185307179586

/-- The place of one of `count` points. Angles are worked out in 64 bits, so that quarter turns
come out on whole coordinates. -/
def position (c : Circle) (index count : Nat) : Point :=
  let angle := turn * Float.ofNat index / Float.ofNat (max count 1)
  let radius := c.radius.toFloat
  ⟨(c.center.x.toFloat + radius * angle.cos).toFloat32,
    (c.center.y.toFloat + radius * angle.sin).toFloat32⟩

/-- The places of all nodes of a graph, by node id. -/
def place (c : Circle) (g : Graph) : Dict Point :=
  Dict.ofList (g.nodeIds.zipIdx.map fun (id, index) => (id, c.position index g.nodeIds.length))

end Circle

end DotDrawing
