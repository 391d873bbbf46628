import DotDrawing.Decimal.Binary32

/-!
Points of the plane in 32-bit coordinates.

The first coordinate grows to the right and the second one downward. A point stands for the vector
from the origin to it as well; angles are in radians from the first axis, clockwise on the canvas.
-/

namespace DotDrawing

structure Point where
  x : Float32
  y : Float32
  deriving DecidableEq

namespace Point

def origin : Point := ⟨0, 0⟩

instance : Inhabited Point := ⟨origin⟩

def add (p q : Point) : Point := ⟨p.x + q.x, p.y + q.y⟩

/-- The vector from `q` to `p`. -/
def sub (p q : Point) : Point := ⟨p.x - q.x, p.y - q.y⟩

def scale (p : Point) (factor : Float32) : Point := ⟨p.x * factor, p.y * factor⟩

def midpoint (p q : Point) : Point := (p.add q).scale 0.5

/-- The length of the vector, worked out in 64 bits and then rounded. An infinite coordinate makes
it infinite, whatever the other one is. -/
def length (p : Point) : Float32 :=
  if p.x.isInf || p.y.isInf then 1.0 / 0.0
  else (p.x.toFloat * p.x.toFloat + p.y.toFloat * p.y.toFloat).sqrt.toFloat32

def distance (p q : Point) : Float32 := (q.sub p).length

/-- The direction of the vector. -/
def angle (p : Point) : Float32 := Float32.atan2 p.y p.x

/-- The point at the distance in the direction of the angle. -/
def polarOffset (p : Point) (distance angle : Float32) : Point :=
  ⟨p.x + distance * angle.cos, p.y + distance * angle.sin⟩

/-- The point at the distance on the line from `p` to `q`, which may lie behind `q`. Between equal
points there is no line, and `p` stays where it is. -/
def moveToward (p q : Point) (distance : Float32) : Point :=
  let delta := q.sub p
  let length := delta.length
  if length == 0 then p else p.add (delta.scale (distance / length))

/-- Both coordinates with a comma between them. -/
def text (p : Point) : String := Decimal.text p.x ++ "," ++ Decimal.text p.y

end Point

/-- Points with one space between them. -/
def pointsText (ps : List Point) : String := " ".intercalate (ps.map Point.text)

end DotDrawing
