import DotDrawing.Config.Value

/-!
The tables of a TOML file while it is read.

A table comes from a header, from the longer header of a table inside it, or from a key with points.
What a table comes from decides what may be added to it later. A header defines a table once. A key
with points does not lead into a table that a header defines, and no header defines a table that
such a key has led into. On its way the key may pass through the last table of an array.
-/

namespace DotDrawing.Toml

inductive Origin
  | header
  | longerHeader
  | points
  deriving DecidableEq

inductive Node
  | closed (v : Value)
  | table (origin : Origin) (entries : List (String × Node))
  /-- The tables of an array, one header each. -/
  | array (tables : List (List (String × Node)))

abbrev Entries := List (String × Node)

mutual

def Node.value : Node → Value
  | .closed v => v
  | .table _ es => .table (entryValues es)
  | .array ts => .list (tableValues ts)

def entryValues : List (String × Node) → List (String × Value)
  | [] => []
  | (k, n) :: es => (k, n.value) :: entryValues es

def tableValues : List (List (String × Node)) → List Value
  | [] => []
  | t :: ts => .table (entryValues t) :: tableValues ts

end

namespace Entries

/-- Changes the last table of an array. -/
def changeLast (f : Entries → Option Entries) : List Entries → Option (List Entries)
  | [] => none
  | [t] => (f t).map ([·])
  | t :: ts => (changeLast f ts).map (t :: ·)

/-- Changes the table that the keys of a header lead to, making the ones that are not there. -/
def atHeader (f : Entries → Option Entries) : List String → Entries → Option Entries
  | [], es => f es
  | k :: ks, es =>
    match List.lookup k es with
    | none => (atHeader f ks []).map fun t => putEntry k (.table .longerHeader t) es
    | some (.table origin t) =>
      (atHeader f ks t).map fun t => putEntry k (.table origin t) es
    | some (.array ts) =>
      (changeLast (atHeader f ks) ts).map fun ts => putEntry k (.array ts) es
    | some (.closed _) => none

/-- Puts a value under a key with points. The tables on its way are from then on those of such keys,
and the one that takes the value must be no element of an array. -/
def putDotted (v : Value) : List String → Entries → Option Entries
  | [], _ => none
  | [k], es => if (List.lookup k es).isSome then none else some (putEntry k (.closed v) es)
  | k :: ks, es =>
    match List.lookup k es with
    | none => (putDotted v ks []).map fun t => putEntry k (.table .points t) es
    | some (.table .header _) | some (.closed _) => none
    | some (.table _ t) => (putDotted v ks t).map fun t => putEntry k (.table .points t) es
    | some (.array ts) =>
      if ks.length = 1 then none
      else (changeLast (putDotted v ks) ts).map fun ts => putEntry k (.array ts) es

/-- A header of a table defines it, unless another one has. -/
def openTable (k : String) (es : Entries) : Option Entries :=
  match List.lookup k es with
  | none => some (putEntry k (.table .header []) es)
  | some (.table .longerHeader t) => some (putEntry k (.table .header t) es)
  | some _ => none

/-- A header of an array adds a table to it. -/
def openElement (k : String) (es : Entries) : Option Entries :=
  match List.lookup k es with
  | none => some (putEntry k (.array [[]]) es)
  | some (.array ts) => some (putEntry k (.array (ts ++ [[]])) es)
  | some _ => none

end Entries

end DotDrawing.Toml
