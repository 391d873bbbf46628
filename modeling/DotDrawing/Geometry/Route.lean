import DotDrawing.Geometry.Point

/-!
The line of an edge.

An edge is a straight line between two centers, shortened at both ends by the radius of the nodes.
It has an arrowhead at its end if it is directed, and a place for a label above its middle if it
has a label. Between centers at no distance, or at none that is finite, there is no line.
-/

namespace DotDrawing

/-- A triangle with its tip at the end of an edge. -/
structure Arrowhead where
  tip : Point
  left : Point
  right : Point
  deriving DecidableEq

namespace Arrowhead

/-- The angle between an edge and either side of its arrowhead, a sixth of a half turn. -/
def spread : Float32 := 0.5235988

/-- The arrowhead with sides of the given size at the tip of a line in the direction. -/
def ofTip (tip : Point) (direction size : Float32) : Arrowhead where
  tip := tip
  left := tip.polarOffset (-size) (direction - spread)
  right := tip.polarOffset (-size) (direction + spread)

def points (a : Arrowhead) : List Point := [a.tip, a.left, a.right]

end Arrowhead

structure Route where
  start : Point
  stop : Point
  arrowhead? : Option Arrowhead
  labelAnchor? : Option Point
  deriving DecidableEq

/-- The sizes that routes depend on. -/
structure Router where
  nodeRadius : Float32
  arrowSize : Float32
  deriving DecidableEq

namespace Router

/-- How far above the middle of an edge its label stands. -/
def labelOffset : Float32 := 5

def anchor (start stop : Point) : Point :=
  let middle := start.midpoint stop
  ⟨middle.x, middle.y - labelOffset⟩

def route? (r : Router) (source target : Point) (directed labelled : Bool) : Option Route :=
  let length := source.distance target
  if length == 0 || !length.isFinite then none
  else
    let start := source.moveToward target r.nodeRadius
    let stop := target.moveToward source r.nodeRadius
    let direction := (target.sub source).angle
    some {
      start
      stop
      arrowhead? := if directed then some (.ofTip stop direction r.arrowSize) else none
      labelAnchor? := if labelled then some (anchor start stop) else none }

end Router

end DotDrawing
