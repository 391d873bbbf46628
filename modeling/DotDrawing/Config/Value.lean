import DotDrawing.Config.Basic

/-!
Settings out of data files.

A data file holds values of a few kinds. A section of settings is a table of them or a list of them
in order; what is not set keeps its default. A value of the wrong kind is refused, and so is a
number that cannot be read, even under a name that no setting has. The kind of file decides about a
list that is too long.
-/

namespace DotDrawing

/-- A value of a data file. -/
inductive Value
  | integer (n : Int)
  | real (x : Float)
  /-- A number that cannot be read: one that is too great, or one with wrong digits. -/
  | unreadable
  | text (s : String)
  | list (items : List Value)
  | table (entries : List (String × Value))
  /-- A value of a kind that no setting has. -/
  | other
  deriving Inhabited

/-- What is done about the items of a list behind those for its settings. -/
inductive Surplus
  | refused
  | ignored
  deriving DecidableEq, Repr

namespace Value

mutual

/-- The value can be read, with all that is in it. -/
def isReadable : Value → Bool
  | unreadable => false
  | list items => areReadable items
  | table entries => entriesAreReadable entries
  | _ => true

def areReadable : List Value → Bool
  | [] => true
  | v :: vs => v.isReadable && areReadable vs

def entriesAreReadable : List (String × Value) → Bool
  | [] => true
  | (_, v) :: es => v.isReadable && entriesAreReadable es

end

/-- A size. Whole numbers are rounded at once, if they have at most 64 bits. -/
def size? : Value → Option Float32
  | integer n =>
    if -0x8000000000000000 ≤ n ∧ n < 0x10000000000000000 then some (Float32.ofInt n) else none
  | real x => some x.toFloat32
  | _ => none

def text? : Value → Option String
  | text s => some s
  | _ => none

/-- The values of a section for its fields, in their order. What has another name than they must be
readable, and what is surplus need not. -/
def fields? (surplus : Surplus) (names : List String) : Value → Option (List (Option Value))
  | list items =>
    if surplus = .refused ∧ names.length < items.length then none
    else some ((List.range names.length).map fun i => items[i]?)
  | table entries =>
    if entriesAreReadable (entries.filter fun e => !names.contains e.1) then
      some (names.map fun name => List.lookup name entries)
    else none
  | _ => none

/-- A field that is set is read, and one that is not has its default. -/
def field? {α : Type} (read : Value → Option α) (default : α) : Option Value → Option α
  | some v => read v
  | none => some default

end Value

open Value

def Canvas.ofValue? (surplus : Surplus) (v : Value) : Option Canvas := do
  let d := Config.defaultCanvas
  match ← v.fields? surplus ["width", "height"] with
  | [width, height] => return ⟨← field? size? d.width width, ← field? size? d.height height⟩
  | _ => none

def Circle.ofValue? (surplus : Surplus) (v : Value) : Option Circle := do
  let d := Config.defaultCircle
  match ← v.fields? surplus ["center_x", "center_y", "radius"] with
  | [x, y, radius] =>
    return ⟨⟨← field? size? d.center.x x, ← field? size? d.center.y y⟩,
      ← field? size? d.radius radius⟩
  | _ => none

def Style.ofValue? (surplus : Surplus) (v : Value) : Option Style := do
  let d := Config.defaultStyle
  match ← v.fields? surplus ["background_color", "node_radius", "arrow_size"] with
  | [background, nodeRadius, arrowSize] =>
    return ⟨← field? text? d.background background, ← field? size? d.nodeRadius nodeRadius,
      ← field? size? d.arrowSize arrowSize⟩
  | _ => none

/-- The settings that a value of a data file makes. -/
def Config.ofValue? (surplus : Surplus) (v : Value) : Option Config := do
  match ← v.fields? surplus ["canvas", "layout", "style"] with
  | [canvas, layout, style] =>
    return ⟨← field? (Canvas.ofValue? surplus) defaultCanvas canvas,
      ← field? (Circle.ofValue? surplus) defaultCircle layout,
      ← field? (Style.ofValue? surplus) defaultStyle style⟩
  | _ => none

end DotDrawing
