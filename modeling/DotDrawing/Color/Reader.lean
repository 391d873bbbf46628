import DotDrawing.Decimal.Reading
import DotDrawing.Text.Blank

/-!
The small parts of a written color.

A reader takes something off the front of a text or fails with a cause. Comments may stand in front
of numbers, marks and white space; a comment without an end is not taken for one.
-/

namespace DotDrawing.Color

/-- Why a text is no color. -/
inductive Fault
  | unknownAngleDimension
  | unknownAngle
  | unknownComponent
  | unknownIdentifier
  | unknownSpace
  | unknownSyntax
  | missingArguments
  | missingClosing
  | missingSpace
  | missingComma
  | notAtEnd
  | wrongDigitCount
  deriving DecidableEq, Repr

def Fault.message : Fault → String
  | unknownAngleDimension => "unknown angle dimension"
  | unknownAngle => "unknown angle"
  | unknownComponent => "unknown color component"
  | unknownIdentifier => "unknown color identifier"
  | unknownSpace => "unknown color space"
  | unknownSyntax => "unknown color syntax"
  | missingArguments => "expected arguments"
  | missingClosing => "expected closing parenthesis"
  | missingSpace => "expected color space identifier"
  | missingComma => "expected comma"
  | notAtEnd => "expected end of string"
  | wrongDigitCount => "wrong number of hex digits"

abbrev Reader := StateT (List Char) (Except Fault)

def fail {α : Type} (f : Fault) : Reader α := throw f

/-- What is behind the end of a comment. -/
def afterComment? : List Char → Option (List Char)
  | [] => none
  | '*' :: '/' :: r => some r
  | _ :: r => afterComment? r

theorem length_afterComment? {s r : List Char} (h : afterComment? s = some r) :
    r.length < s.length := by
  fun_induction afterComment? s with
  | case1 => simp at h
  | case2 =>
    cases h
    simp only [List.length_cons]; omega
  | case3 _ _ _ ih =>
    have := ih h
    simp only [List.length_cons]; omega

def dropComments (s : List Char) : List Char :=
  match _h : s with
  | '/' :: '*' :: r =>
    match _hr : afterComment? r with
    | some r' => dropComments r'
    | none => s
  | _ => s
  termination_by s.length
  decreasing_by
    have := length_afterComment? _hr
    simp only [List.length_cons]; omega

def isSpace (c : Char) : Bool := c == ' ' || c == '\t' || c == '\r' || c == '\n'

theorem length_dropComments_le (s : List Char) : (dropComments s).length ≤ s.length := by
  fun_induction dropComments s with
  | case1 r r' hr ih =>
    have := length_afterComment? hr
    simp only [List.length_cons]; omega
  | case2 => simp
  | case3 => simp

/-- The text without the comments and the white space in front. -/
def dropGap (s : List Char) : List Char :=
  match _h : dropComments s with
  | c :: r => if isSpace c then dropGap r else c :: r
  | [] => []
  termination_by s.length
  decreasing_by
    have := length_dropComments_le s
    rw [_h] at this
    simp only [List.length_cons] at this; omega

def comments : Reader Unit := modify dropComments

def gap : Reader Unit := modify dropGap

/-- Takes the mark if it comes next. -/
def take? (c : Char) : Reader Bool := do
  match ← get with
  | d :: r =>
    if d = c then
      set r
      return true
    else return false
  | [] => return false

/-- Takes the mark if it comes next behind comments. -/
def mark? (c : Char) : Reader Bool := do
  comments
  if "/*".toList.isPrefixOf (← get) then return false
  take? c

def number? : Reader (Option Float) := do
  comments
  match Decimal.scan? (← get) with
  | some (n, r) =>
    set r
    return some n.value
  | none => return none

def isNameChar (c : Char) : Bool := c.isAlphanum || c == '_' || c == '-'

/-- The longest name at the front. A digit is neither first nor right behind a `-` that is. -/
def nameRun (s : List Char) : List Char :=
  match s.takeWhile isNameChar with
  | '-' :: c :: r => if c.isDigit then ['-'] else '-' :: c :: r
  | c :: r => if c.isDigit then [] else c :: r
  | [] => []

/-- An identifier: a name that is more than a `-` and does not start with two. -/
def identifier? : Reader (Option String) := do
  let s ← get
  match nameRun s with
  | [] | ['-'] | '-' :: '-' :: _ => return none
  | name =>
    set (s.drop name.length)
    return some (String.ofList name)

/-- The name for look-ups. Names of more than 32 characters are left as they are. -/
def lookupName (name : String) : String :=
  if name.length ≤ 32 then String.ofList (name.toList.map Char.toLower) else name

inductive Value
  | number (n : Float)
  | percent (n : Float)
  | dimension (n : Float) (unit : String)
  | symbol (name : String)

def value? : Reader (Option Value) := do
  match ← number? with
  | some n =>
    if ← take? '%' then return some (.percent n)
    match ← identifier? with
    | some unit => return some (.dimension n unit)
    | none => return some (.number n)
  | none => return (← identifier?).map .symbol

/-- A component of a color, missing when it is written `none`. -/
def component (scale percentScale : Float) : Reader (Option Float) := do
  gap
  match ← value? with
  | some (.number n) => return some (n * scale)
  | some (.percent n) => return some (n * percentScale)
  | some (.symbol name) =>
    if Text.sameWord name "none" then return none else fail .unknownComponent
  | _ => fail .unknownComponent

/-- The degrees in one unit of an angle. -/
def degreesIn? (unit : String) : Option Float :=
  match lookupName unit with
  | "deg" => some 1.0
  | "rad" => some (180.0 / 3.141592653589793)
  | "grad" => some 0.9
  | "turn" => some 360.0
  | _ => none

/-- An angle in degrees, missing when it is written `none`. -/
def angle : Reader (Option Float) := do
  gap
  match ← value? with
  | some (.number n) => return some n
  | some (.dimension n unit) =>
    match degreesIn? unit with
    | some degrees => return some (n * degrees)
    | none => fail .unknownAngleDimension
  | some (.symbol name) =>
    if Text.sameWord name "none" then return none else fail .unknownAngle
  | _ => fail .unknownAngle

def clamp (low high x : Float) : Float := if x < low then low else if high < x then high else x

def atLeastZero (x : Float) : Float := if x < 0.0 then 0.0 else x

/-- The comma that must follow if there was one before. -/
def comma (wanted : Bool) : Reader Unit := do
  gap
  if wanted then
    unless ← mark? ',' do fail .missingComma

/-- The opacity behind its mark, a comma or a slash, or full opacity without the mark. -/
def alpha (commas : Bool) : Reader (Option Float) := do
  gap
  if ← mark? (if commas then ',' else '/') then
    return (← component 1.0 0.01).map (clamp 0.0 1.0)
  else return some 1.0

def openParenthesis : Reader Unit := do
  unless ← take? '(' do fail .missingArguments

def closeParenthesis : Reader Unit := do
  gap
  unless ← mark? ')' do fail .missingClosing

end DotDrawing.Color
