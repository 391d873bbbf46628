import DotDrawing.Color.Basic
import DotDrawing.Geometry.Circle

/-!
Settings of a drawing.

Settings can be used when all sizes are finite and none of them is too small, and when the
background is a color. `check` names the first setting that stands in the way.
-/

namespace DotDrawing

structure Canvas where
  width : Float32
  height : Float32
  deriving DecidableEq

structure Style where
  background : String
  nodeRadius : Float32
  arrowSize : Float32
  deriving DecidableEq

structure Config where
  canvas : Canvas
  circle : Circle
  style : Style
  deriving DecidableEq

/-- The part of the plane that the canvas shows. -/
def Canvas.viewBox (c : Canvas) : String :=
  s!"0 0 {Decimal.text c.width} {Decimal.text c.height}"

namespace Config

def defaultCanvas : Canvas := ⟨600, 400⟩

def defaultCircle : Circle := ⟨⟨300, 200⟩, 200⟩

def defaultStyle : Style := ⟨"white", 20, 6⟩

def standard : Config := ⟨defaultCanvas, defaultCircle, defaultStyle⟩

instance : Inhabited Config := ⟨standard⟩

/-- The same settings. Zero is the same with either sign, and what is no number differs from
itself. -/
def same (a b : Config) : Bool :=
  a.canvas.width == b.canvas.width && a.canvas.height == b.canvas.height &&
    a.circle.center.x == b.circle.center.x && a.circle.center.y == b.circle.center.y &&
    a.circle.radius == b.circle.radius && a.style.background == b.style.background &&
    a.style.nodeRadius == b.style.nodeRadius && a.style.arrowSize == b.style.arrowSize

/-- A setting that stands in the way of a drawing. -/
inductive Fault
  | notFinite (setting : String) (value : Float32)
  | notPositive (setting : String) (value : Float32)
  | negative (setting : String) (value : Float32)
  | background (text : String) (fault : Color.Fault)
  deriving DecidableEq

def Fault.message : Fault → String
  | notFinite setting value =>
    s!"`{setting}` must be a finite number, got {Decimal.text value}"
  | notPositive setting value =>
    s!"`{setting}` must be greater than zero, got {Decimal.text value}"
  | negative setting value => s!"`{setting}` must not be negative, got {Decimal.text value}"
  | background text fault =>
    "Invalid background color in config: " ++ Color.complaint text fault

def needFinite (setting : String) (value : Float32) : Except Fault Unit :=
  if value.isFinite then .ok () else .error (.notFinite setting value)

def needPositive (setting : String) (value : Float32) : Except Fault Unit := do
  needFinite setting value
  if value > 0 then .ok () else .error (.notPositive setting value)

def needNonNegative (setting : String) (value : Float32) : Except Fault Unit := do
  needFinite setting value
  if value ≥ 0 then .ok () else .error (.negative setting value)

def needColor (text : String) : Except Fault Unit :=
  match Color.read text with
  | .ok _ => .ok ()
  | .error fault => .error (.background text fault)

/-- Whether the settings can be used. -/
def check (c : Config) : Except Fault Unit := do
  needPositive "canvas.width" c.canvas.width
  needPositive "canvas.height" c.canvas.height
  needFinite "layout.center_x" c.circle.center.x
  needFinite "layout.center_y" c.circle.center.y
  needNonNegative "layout.radius" c.circle.radius
  needPositive "style.node_radius" c.style.nodeRadius
  needNonNegative "style.arrow_size" c.style.arrowSize
  needColor c.style.background

end Config

end DotDrawing
