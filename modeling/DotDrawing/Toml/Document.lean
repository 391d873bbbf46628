import DotDrawing.Toml.Scalar
import DotDrawing.Toml.Tree

/-!
TOML files.

A file is a run of lines, each of which gives a key its value or opens a table. Readers of values
have a limit on their steps, which the length of the text bounds, and a limit on the brackets that
may be opened inside one another.
-/

namespace DotDrawing.Toml

/-! ### Gaps -/

/-- The text without the white space in front. -/
def skipBlanks (s : List Char) : Option (List Char) := some (s.dropWhile isBlank)

def isBreak (c : Char) : Bool := c == '\n' || c == '\r'

/-- The text without the white space and the comment in front, on one line. -/
def skipComment (s : List Char) : Option (List Char) :=
  match s.dropWhile isBlank with
  | '#' :: r =>
    if (r.takeWhile (!isBreak ·)).all isPlain then some (r.dropWhile (!isBreak ·)) else none
  | r => some r

/-- The text without the white space, comments and line breaks in front. -/
def skipLines : (limit : Nat) → List Char → Option (List Char)
  | 0, _ => none
  | limit + 1, s => do
    let r ← skipComment s
    match newline? r with
    | some r => skipLines limit r
    | none => some r

/-! ### Values -/

/-- The depth that is left behind one more bracket. -/
def inside? : (depth : Nat) → Option Nat
  | 0 => none
  | depth + 1 => some depth

mutual

/-- A value in which up to `depth` brackets are opened inside one another. -/
def value? (depth : Nat) : (limit : Nat) → List Char → Option (Value × List Char)
  | 0, _ => none
  | limit + 1, s =>
    match s with
    | '[' :: r => do
      let (items, r) ← items? (← inside? depth) limit (← skipLines limit r)
      some (.list items, r)
    | '\x7b' :: r => do
      let (entries, r) ← members? (← inside? depth) limit [] (← skipLines limit r)
      some (.table (entryValues entries), r)
    | '"' :: _ | '\'' :: _ => (text? s).map fun p => (.text p.1, p.2)
    | _ => do
      let (w, r) := word s
      some (← wordValue? w, r)

/-- The items of an array up to its end. A comma may follow the last one. -/
def items? (depth : Nat) : (limit : Nat) → List Char → Option (List Value × List Char)
  | 0, _ => none
  | limit + 1, s =>
    match s with
    | ']' :: r => some ([], r)
    | _ => do
      let (v, r) ← value? depth limit s
      match ← skipLines limit r with
      | ',' :: r =>
        let (vs, r) ← items? depth limit (← skipLines limit r)
        some (v :: vs, r)
      | ']' :: r => some ([v], r)
      | _ => none

/-- The entries of an inline table up to its end, put to those before. A comma may follow the
last one. -/
def members? (depth : Nat) :
    (limit : Nat) → Entries → List Char → Option (Entries × List Char)
  | 0, _, _ => none
  | limit + 1, es, s =>
    match s with
    | '\x7d' :: r => some (es, r)
    | _ => do
      let (keys, v, r) ← entry? depth (skipLines limit) limit s
      let es ← Entries.putDotted v keys es
      match ← skipLines limit r with
      | ',' :: r => members? depth limit es (← skipLines limit r)
      | '\x7d' :: r => some (es, r)
      | _ => none

/-- A key, an equals sign and a value, with gaps around the sign. -/
def entry? (depth : Nat) (gap : List Char → Option (List Char)) :
    (limit : Nat) → List Char → Option (List String × Value × List Char)
  | 0, _ => none
  | limit + 1, s => do
    let (keys, r) ← keys? maxDepth s
    match ← gap r with
    | '=' :: r =>
      let (v, r) ← value? depth limit (← gap r)
      some (keys, v, r)
    | _ => none

end

/-! ### Lines -/

/-- What has been read of a file: its tables, and the keys of the header last seen. -/
structure State where
  root : Entries
  header : List String

/-- The keys of a header, between brackets that have been opened. -/
def headerKeys? (s : List Char) : Option (List String × List Char) := do
  let (keys, r) ← keys? maxDepth (s.dropWhile isBlank)
  match r.dropWhile isBlank with
  | ']' :: r => some (keys, r)
  | _ => none

def openHeader (change : String → Entries → Option Entries) (keys : List String) (st : State) :
    Option State := do
  let last ← keys.getLast?
  let root ← Entries.atHeader (change last) keys.dropLast st.root
  some ⟨root, keys⟩

/-- Reads one line with something on it. -/
def line? (limit : Nat) (st : State) (s : List Char) : Option (State × List Char) :=
  match s with
  | '[' :: '[' :: r => do
    match ← headerKeys? r with
    | (keys, ']' :: r) => some (← openHeader Entries.openElement keys st, r)
    | _ => none
  | '[' :: r => do
    let (keys, r) ← headerKeys? r
    some (← openHeader Entries.openTable keys st, r)
  | _ => do
    let (keys, v, r) ← entry? maxDepth skipBlanks limit s
    let root ← Entries.atHeader (Entries.putDotted v keys) st.header st.root
    some ({ st with root }, r)

/-- Reads lines to the end of the file. -/
def lines? : (limit : Nat) → State → List Char → Option State
  | 0, _, _ => none
  | limit + 1, st, s => do
    match ← skipLines limit s with
    | [] => some st
    | s =>
      let (st, r) ← line? limit st s
      match ← skipComment r with
      | [] => some st
      | r => lines? limit st (← newline? r)

/-- The value of a whole file, if it is well-formed. -/
def read? (text : String) : Option Value :=
  let s := match text.toList with
    | '\ufeff' :: r => r
    | s => s
  (lines? (2 * s.length + 4) ⟨[], []⟩ s).map fun st => .table (entryValues st.root)

end DotDrawing.Toml
