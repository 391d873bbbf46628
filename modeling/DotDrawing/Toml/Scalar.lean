import DotDrawing.Config.Value
import DotDrawing.Decimal.Reading

/-!
Texts, numbers and dates of a TOML file.

A reader takes a text off the front and gives what follows it. Numbers and dates are words that end
at white space, at a comment, or at a mark that closes a value; a word that fits no form is refused.
-/

namespace DotDrawing.Toml

def isBlank (c : Char) : Bool := c == ' ' || c == '\t'

/-- The characters that may stand in a text or a comment. -/
def isPlain (c : Char) : Bool := c == '\t' || (0x20 ≤ c.toNat && c.toNat ≠ 0x7F)

/-! ### Texts -/

def hexDigit? (c : Char) : Option Nat :=
  if c.isDigit then some (c.toNat - '0'.toNat)
  else if 'a' ≤ c.toLower ∧ c.toLower ≤ 'f' then some (c.toLower.toNat - 'a'.toNat + 10)
  else none

/-- The character whose number has the hexadecimal digits. -/
def charOfHex? (cs : List Char) : Option Char := do
  let ds ← cs.mapM hexDigit?
  let n := ds.foldl (fun n d => 16 * n + d) 0
  if n.isValidChar then some (Char.ofNat n) else none

/-- The character that an escape stands for, from behind its backslash. -/
def escape? : List Char → Option (Char × List Char)
  | 'b' :: r => some ('\x08', r)
  | 't' :: r => some ('\t', r)
  | 'n' :: r => some ('\n', r)
  | 'f' :: r => some ('\x0c', r)
  | 'r' :: r => some ('\r', r)
  | 'e' :: r => some ('\x1b', r)
  | '"' :: r => some ('"', r)
  | '\\' :: r => some ('\\', r)
  | 'x' :: a :: b :: r => (charOfHex? [a, b]).map (·, r)
  | 'u' :: a :: b :: c :: d :: r => (charOfHex? [a, b, c, d]).map (·, r)
  | 'U' :: a :: b :: c :: d :: e :: f :: g :: h :: r =>
    (charOfHex? [a, b, c, d, e, f, g, h]).map (·, r)
  | _ => none

theorem length_escape? {s r : List Char} {c : Char} (h : escape? s = some (c, r)) :
    r.length < s.length := by
  unfold escape? at h
  split at h
  case h_12 => simp at h
  all_goals
    first
    | (cases h; simp)
    | (obtain ⟨_, _, hq⟩ := Option.map_eq_some_iff.1 h
       cases hq
       simp only [List.length_cons]; omega)

/-- The rest of a text between quotes, on one line. -/
def basic? (s : List Char) : Option (List Char × List Char) :=
  match _h : s with
  | [] => none
  | '"' :: r => some ([], r)
  | '\\' :: r =>
    match _he : escape? r with
    | some (c, r') => (basic? r').map fun p => (c :: p.1, p.2)
    | none => none
  | c :: r => if isPlain c then (basic? r).map fun p => (c :: p.1, p.2) else none
  termination_by s.length
  decreasing_by
    · have := length_escape? _he
      simp only [List.length_cons]; omega
    · simp

/-- The rest of a text between apostrophes, on one line. -/
def literal? : List Char → Option (List Char × List Char)
  | [] => none
  | c :: r =>
    if c = '\'' then some ([], r)
    else if isPlain c then (literal? r).map fun p => (c :: p.1, p.2)
    else none

/-- What is behind a line break. -/
def newline? : List Char → Option (List Char)
  | '\n' :: r => some r
  | '\r' :: '\n' :: r => some r
  | _ => none

/-- Up to two more quotes belong to a long text that three quotes close. -/
def closing (quote : Char) : List Char → List Char × List Char
  | a :: b :: r =>
    if a = quote then if b = quote then ([a, b], r) else ([a], b :: r) else ([], a :: b :: r)
  | [a] => if a = quote then ([a], []) else ([], [a])
  | [] => ([], [])

/-- The text without the white space and the line breaks in front. -/
def dropGap : List Char → List Char
  | '\r' :: '\n' :: r => dropGap r
  | c :: r => if isBlank c || c == '\n' then dropGap r else c :: r
  | [] => []

theorem length_dropGap_le (s : List Char) : (dropGap s).length ≤ s.length := by
  fun_induction dropGap s with
  | case1 r ih => simp only [List.length_cons]; omega
  | case2 c r _ _ ih => simp only [List.length_cons]; omega
  | case3 => simp
  | case4 => simp

/-- A backslash at the end of a line takes the break and all white space behind it away. -/
def continued? (s : List Char) : Option (List Char) :=
  (newline? (s.dropWhile isBlank)).map dropGap

theorem length_newline? {s r : List Char} (h : newline? s = some r) : r.length < s.length := by
  unfold newline? at h
  split at h
  all_goals first | (cases h; simp only [List.length_cons]; omega) | simp at h

theorem length_continued? {s r : List Char} (h : continued? s = some r) :
    r.length < s.length := by
  obtain ⟨t, ht, hq⟩ := Option.map_eq_some_iff.1 h
  cases hq
  have h1 := length_dropGap_le t
  have h2 := (List.dropWhile_sublist isBlank (l := s)).length_le
  have h3 := length_newline? ht
  omega

/-- The rest of a text between three quotes. Line breaks in it stay as they are. -/
def longBasic? (s : List Char) : Option (List Char × List Char) :=
  match _h : s with
  | [] => none
  | '"' :: '"' :: '"' :: r => some (closing '"' r)
  | '\\' :: r =>
    match _hc : continued? r with
    | some r' => longBasic? r'
    | none =>
      match _he : escape? r with
      | some (c, r') => (longBasic? r').map fun p => (c :: p.1, p.2)
      | none => none
  | '\r' :: '\n' :: r => (longBasic? r).map fun p => ('\r' :: '\n' :: p.1, p.2)
  | c :: r =>
    if isPlain c || c == '\n' then (longBasic? r).map fun p => (c :: p.1, p.2) else none
  termination_by s.length
  decreasing_by
    · have := length_continued? _hc
      simp only [List.length_cons]; omega
    · have := length_escape? _he
      simp only [List.length_cons]; omega
    · simp only [List.length_cons]; omega
    · simp

/-- The rest of a text between three apostrophes. -/
def longLiteral? : List Char → Option (List Char × List Char)
  | [] => none
  | '\'' :: '\'' :: '\'' :: r => some (closing '\'' r)
  | '\r' :: '\n' :: r => (longLiteral? r).map fun p => ('\r' :: '\n' :: p.1, p.2)
  | c :: r =>
    if isPlain c || c == '\n' then (longLiteral? r).map fun p => (c :: p.1, p.2) else none

def asText (p : List Char × List Char) : String × List Char := (String.ofList p.1, p.2)

/-- A text that may span lines. A line break right behind the opening marks does not count. -/
def longText? (rest? : List Char → Option (List Char × List Char)) (s : List Char) :
    Option (String × List Char) :=
  (rest? ((newline? s).getD s)).map asText

/-- A text in any of its four forms. -/
def text? : List Char → Option (String × List Char)
  | '"' :: '"' :: '"' :: r => longText? longBasic? r
  | '\'' :: '\'' :: '\'' :: r => longText? longLiteral? r
  | '"' :: r => (basic? r).map asText
  | '\'' :: r => (literal? r).map asText
  | _ => none

/-! ### Keys -/

def isBareKeyChar (c : Char) : Bool := c.isAlphanum || c == '_' || c == '-'

def simpleKey? : List Char → Option (String × List Char)
  | '"' :: r => (basic? r).map asText
  | '\'' :: r => (literal? r).map asText
  | s =>
    match s.takeWhile isBareKeyChar with
    | [] => none
    | key => some (String.ofList key, s.dropWhile isBareKeyChar)

/-- The number of keys that may have points between them, and of brackets that may be open. -/
def maxDepth : Nat := 80

/-- Keys with points between them, of which there are at most `limit`. -/
def keys? : (limit : Nat) → List Char → Option (List String × List Char)
  | 0, _ => none
  | limit + 1, s => do
    let (key, r) ← simpleKey? s
    match r.dropWhile isBlank with
    | '.' :: r =>
      let (more, r) ← keys? limit (r.dropWhile isBlank)
      some (key :: more, r)
    | r => some ([key], r)

/-! ### Numbers -/

/-- The digits of a run in which underscores stand between digits only. -/
def digits? (isDigit : Char → Bool) (s : List Char) : Option (List Char) :=
  let groups := s.splitOn '_'
  if groups.all fun g => !g.isEmpty && g.all isDigit then some groups.flatten else none

/-- A run of decimal digits that does not start with a zero unless it is one. -/
def whole? (s : List Char) : Option (List Char) :=
  match digits? Char.isDigit s with
  | some ('0' :: _ :: _) => none
  | ds => ds

def sign : List Char → Bool × List Char
  | '-' :: r => (true, r)
  | '+' :: r => (false, r)
  | r => (false, r)

def ofRadix? (radix : Nat) (s : List Char) : Option Nat := do
  let ok := fun c => (hexDigit? c).any (· < radix)
  let ds ← digits? ok s
  some (ds.foldl (fun n c => radix * n + (hexDigit? c).getD 0) 0)

def integer? (s : List Char) : Option Int :=
  match s with
  | '0' :: 'x' :: r => (ofRadix? 16 r).map Int.ofNat
  | '0' :: 'o' :: r => (ofRadix? 8 r).map Int.ofNat
  | '0' :: 'b' :: r => (ofRadix? 2 r).map Int.ofNat
  | _ => do
    let (negative, r) := sign s
    let n : Int := Decimal.ofDigits (← whole? r)
    some (if negative then -n else n)

def exponent? : Option (List Char) → Option Int
  | none => some 0
  | some s => do
    let (negative, r) := sign s
    let n : Int := Decimal.ofDigits (← digits? Char.isDigit r)
    some (if negative then -n else n)

/-- What stands in front of a mark, and what follows it if the mark is there. -/
def splitAtMark (isMark : Char → Bool) (s : List Char) : List Char × Option (List Char) :=
  match s.dropWhile (!isMark ·) with
  | [] => (s, none)
  | _ :: r => (s.takeWhile (!isMark ·), some r)

/-- The value of an integer. The greatest that can be read have 128 bits, with or without a sign. -/
def integerValue (n : Int) : Value :=
  if -0x80000000000000000000000000000000 ≤ n ∧ n < 0x100000000000000000000000000000000 then
    .integer n
  else .unreadable

/-- Every underscore stands between hexadecimal digits. -/
def isSpaced (s : List Char) : Bool :=
  let groups := s.splitOn '_'
  let isDigit := fun c => (hexDigit? c).isSome
  groups.tail.all (fun g => g.head?.any isDigit) &&
    groups.dropLast.all fun g => g.getLast?.any isDigit

/-- A word that is taken for an integer though its digits are wrong. A radix may stand alone, and
behind the first digits and an underscore nearly anything may follow. -/
def isWrongInteger (s : List Char) : Bool :=
  let r := (sign s).2
  match r.takeWhile Char.isDigit, r.dropWhile Char.isDigit with
  | d :: _, '_' :: more => d != '0' && !more.any (".eE=[\x7b".toList.contains ·) && isSpaced s
  | _, _ => ["0x", "0o", "0b"].contains (String.ofList s)

/-- A number with a fraction or an exponent, or one that is named. -/
def real? (s : List Char) : Option Value :=
  let (negative, r) := sign s
  match r with
  | ['i', 'n', 'f'] => some (.real (if negative then -Decimal.infinity else Decimal.infinity))
  | ['n', 'a', 'n'] => some (.real (0.0 / 0.0))
  | _ => do
    let (number, exponent) := splitAtMark (fun c => c == 'e' || c == 'E') r
    let (whole, fraction) := splitAtMark (· == '.') number
    if exponent.isNone && fraction.isNone then none
    let whole ← whole? whole
    let fraction ← match fraction with
      | none => some []
      | some s => digits? Char.isDigit s
    let exponent ← exponent? exponent
    let x := Decimal.Written.value { negative, whole, fraction, exponent }
    some (if x.isInf then .unreadable else .real x)

/-! ### Dates -/

/-- The number of a run of as many digits as wanted. -/
def fixed? (count : Nat) (s : List Char) : Option Nat :=
  if s.length = count && s.all Char.isDigit then some (Decimal.ofDigits s) else none

def daysIn (year month : Nat) : Nat :=
  if month = 2 then if year % 4 = 0 ∧ (year % 100 ≠ 0 ∨ year % 400 = 0) then 29 else 28
  else if month = 4 ∨ month = 6 ∨ month = 9 ∨ month = 11 then 30
  else 31

def isDate (s : List Char) : Bool :=
  match s.splitOn '-' with
  | [y, m, d] =>
    match fixed? 4 y, fixed? 2 m, fixed? 2 d with
    | some y, some m, some d => 1 ≤ m && m ≤ 12 && 1 ≤ d && d ≤ daysIn y m
    | _, _, _ => false
  | _ => false

def below (bound : Nat) (s : List Char) : Bool := (fixed? 2 s).any (· < bound)

/-- Seconds, up to a leap second, with or without a fraction. -/
def isSeconds (s : List Char) : Bool :=
  match splitAtMark (· == '.') s with
  | (whole, none) => below 61 whole
  | (whole, some fraction) => below 61 whole && !fraction.isEmpty && fraction.all Char.isDigit

def isTime (s : List Char) : Bool :=
  match s.splitOn ':' with
  | [h, m] => below 24 h && below 60 m
  | [h, m, s] => below 24 h && below 60 m && isSeconds s
  | _ => false

def isOffset (s : List Char) : Bool :=
  match s.splitOn ':' with
  | [h, m] => below 24 h && below 60 m
  | _ => false

/-- A time of day with an optional offset. -/
def isZonedTime (s : List Char) : Bool :=
  let isMark := fun c => c == 'Z' || c == 'z' || c == '+' || c == '-'
  match s.dropWhile (!isMark ·) with
  | [] => isTime s
  | mark :: r =>
    isTime (s.takeWhile (!isMark ·)) &&
      if mark == 'Z' || mark == 'z' then r.isEmpty else isOffset r

def isMoment (s : List Char) : Bool :=
  isDate s || isTime s ||
    (isDate (s.take 10) &&
      match s.drop 10 with
      | c :: r => (c == 'T' || c == 't' || c == ' ') && isZonedTime r
      | [] => false)

/-! ### Words -/

def isWordChar (c : Char) : Bool :=
  !(isBlank c || c == '\n' || c == '\r' || c == ',' || c == ']' || c == '\x7d' || c == '#')

/-- The word at the front. A day and a time may have a space between them. -/
def word (s : List Char) : List Char × List Char :=
  let first := s.takeWhile isWordChar
  let rest := s.dropWhile isWordChar
  match rest with
  | ' ' :: c :: r =>
    if isDate first && c.isDigit then
      (first ++ ' ' :: (c :: r).takeWhile isWordChar, (c :: r).dropWhile isWordChar)
    else (first, rest)
  | _ => (first, rest)

/-- The value that a word stands for. A date is a table that has no settings, and an integer with
wrong digits cannot be read. -/
def wordValue? (s : List Char) : Option Value :=
  if s = "true".toList ∨ s = "false".toList then some .other
  else if isMoment s then some (.table [])
  else if isWrongInteger s ∧ integer? s = none then some .unreadable
  else ((integer? s).map integerValue).or (real? s)

end DotDrawing.Toml
