import DotDrawing.Color.Names
import DotDrawing.Color.Reader

/-!
Colors as style sheets write them.

A color is a name, a run of hexadecimal digits behind `#`, or a function of a color space. Names
count as themselves: two names for one color are two colors, and none is equal to a color that is
written out.
-/

namespace DotDrawing

namespace Color

inductive Space
  | srgb
  | linearSrgb
  | displayP3
  | a98Rgb
  | prophotoRgb
  | rec2020
  | xyzD50
  | xyzD65
  | lab
  | oklab
  | lch
  | oklch
  | hsl
  | hwb
  deriving DecidableEq, Repr

/-- The space that an identifier names in the `color` function. -/
def Space.ofName? : String → Option Space
  | "srgb" => some .srgb
  | "srgb-linear" => some .linearSrgb
  | "display-p3" => some .displayP3
  | "a98-rgb" => some .a98Rgb
  | "prophoto-rgb" => some .prophotoRgb
  | "rec2020" => some .rec2020
  | "xyz-d50" => some .xyzD50
  | "xyz" | "xyz-d65" => some .xyzD65
  | _ => none

end Color

inductive Color
  | named (name : String)
  /-- A color by its components, the last of which is the opacity; `generic` when the space was
  named in the `color` function. -/
  | ofSpace (space : Color.Space) (generic : Bool) (components : List (Option Float32))

namespace Color

def narrow (components : List (Option Float)) : List (Option Float32) :=
  components.map fun c => c.map Float.toFloat32

def sameComponent : Option Float32 → Option Float32 → Bool
  | some x, some y => x == y
  | none, none => true
  | _, _ => false

def same : Color → Color → Bool
  | named a, named b => a == b
  | ofSpace s g cs, ofSpace t h ds =>
    s == t && g == h && cs.length == ds.length &&
      (cs.zip ds).all fun (c, d) => sameComponent c d
  | _, _ => false

/-! ### Functions -/

/-- A red, green or blue component, of which 255 is the whole. -/
def rgbComponent : Reader (Option Float) :=
  return (← component (1.0 / 255.0) 0.01).map (clamp 0.0 1.0)

def rgb : Reader Color := do
  openParenthesis
  let r ← rgbComponent
  gap
  let commas ← mark? ','
  let g ← rgbComponent
  comma commas
  let b ← rgbComponent
  let a ← alpha commas
  closeParenthesis
  return .ofSpace .srgb false (narrow [r, g, b, a])

def hsl : Reader Color := do
  openParenthesis
  let h ← angle
  let commas ← mark? ','
  let s := (← component 1.0 1.0).map atLeastZero
  comma commas
  let l ← component 1.0 1.0
  let a ← alpha commas
  closeParenthesis
  return .ofSpace .hsl false (narrow [h, s, l, a])

def hwb : Reader Color := do
  openParenthesis
  let h ← angle
  let w ← component 1.0 1.0
  let b ← component 1.0 1.0
  let a ← alpha false
  closeParenthesis
  return .ofSpace .hwb false (narrow [h, w, b, a])

/-- A lightness up to `top` and two coordinates, for which `scale` is one percent. -/
def labLike (space : Space) (top scale : Float) : Reader Color := do
  openParenthesis
  let l := (← component 1.0 (0.01 * top)).map (clamp 0.0 top)
  let x ← component 1.0 scale
  let y ← component 1.0 scale
  let a ← alpha false
  closeParenthesis
  return .ofSpace space false (narrow [l, x, y, a])

/-- A lightness up to `top`, a chroma for which `scale` is one percent, and a hue. -/
def lchLike (space : Space) (top scale : Float) : Reader Color := do
  openParenthesis
  let l := (← component 1.0 (0.01 * top)).map (clamp 0.0 top)
  let c := (← component 1.0 scale).map atLeastZero
  let h ← angle
  let a ← alpha false
  closeParenthesis
  return .ofSpace space false (narrow [l, c, h, a])

/-- The `color` function, which names its space. -/
def inSpace : Reader Color := do
  openParenthesis
  gap
  match ← identifier? with
  | none => fail .missingSpace
  | some name =>
    match Space.ofName? (lookupName name) with
    | none => fail .unknownSpace
    | some space =>
      let x ← component 1.0 0.01
      let y ← component 1.0 0.01
      let z ← component 1.0 0.01
      let a ← alpha false
      closeParenthesis
      return .ofSpace space true (narrow [x, y, z, a])

/-! ### Digits -/

def isHexDigit (c : Char) : Bool := c.isDigit || ('a' ≤ c.toLower && c.toLower ≤ 'f')

def hexValue (c : Char) : Nat :=
  if c.isDigit then c.toNat - '0'.toNat else c.toLower.toNat - 'a'.toNat + 10

/-- The share of a byte in 255. -/
def byteShare (n : Nat) : Option Float32 := some (Float32.ofNat n * (1.0 / 255.0))

/-- The color of three or four digits, or of twice as many. -/
def ofHexDigits? : List Nat → Option Color
  | [r, g, b] => hex [17 * r, 17 * g, 17 * b, 255]
  | [r, g, b, a] => hex [17 * r, 17 * g, 17 * b, 17 * a]
  | [r, r', g, g', b, b'] => hex [16 * r + r', 16 * g + g', 16 * b + b', 255]
  | [r, r', g, g', b, b', a, a'] =>
    hex [16 * r + r', 16 * g + g', 16 * b + b', 16 * a + a']
  | _ => none
where
  hex (bytes : List Nat) : Option Color := some (.ofSpace .srgb false (bytes.map byteShare))

/-- Up to eight hexadecimal digits. -/
def hexDigits : Reader Color := do
  let s ← get
  let ds := (s.take 8).takeWhile isHexDigit
  set (s.drop ds.length)
  match ofHexDigits? (ds.map hexValue) with
  | some c => return c
  | none => fail .wrongDigitCount

/-! ### Whole colors -/

def byName (name : String) : Reader Color :=
  match lookupName name with
  | "rgb" | "rgba" => rgb
  | "hsl" | "hsla" => hsl
  | "hwb" => hwb
  | "lab" => labLike .lab 100.0 1.25
  | "oklab" => labLike .oklab 1.0 0.004
  | "lch" => lchLike .lch 100.0 1.25
  | "oklch" => lchLike .oklch 1.0 0.004
  | "color" => inSpace
  | name => if name ∈ names then return .named name else fail .unknownIdentifier

def reader : Reader Color := do
  if ← take? '#' then hexDigits
  else
    match ← identifier? with
    | some name => byName name
    | none => fail .unknownSyntax

/-- The color that a text writes, white space at its ends aside. -/
def read (s : String) : Except Fault Color := do
  match ← reader.run (Text.trim s.toList) with
  | (color, []) => return color
  | _ => throw .notAtEnd

/-- What is said of a text that is no color. -/
def complaint (s : String) (f : Fault) : String := s!"invalid color `{s}`: " ++ f.message

end Color

end DotDrawing
