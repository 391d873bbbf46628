/-!
Dictionaries in order of insertion.

Keys are texts and stand in the order in which they first came. A new value for a known key takes
the place of the old one. Main statements: the keys after an insertion (`keys_insert`) and what is
found after one (`get?_insert`).
-/

namespace DotDrawing

/-- The entries with `v` under `k`: in the place of the old value, or at the end. -/
def putEntry {β : Type} (k : String) (v : β) : List (String × β) → List (String × β)
  | [] => [(k, v)]
  | e :: es => if e.1 = k then (k, v) :: es else e :: putEntry k v es

theorem keys_putEntry {β : Type} (k : String) (v : β) (es : List (String × β)) :
    (putEntry k v es).map Prod.fst =
      if k ∈ es.map Prod.fst then es.map Prod.fst else es.map Prod.fst ++ [k] := by
  induction es with
  | nil => simp [putEntry]
  | cons e es ih =>
    by_cases h : e.1 = k
    · simp [putEntry, h]
    · have h' : ¬ k = e.1 := fun hk => h hk.symm
      simp only [putEntry, h, if_false, List.map_cons, ih, List.mem_cons, h', false_or]
      split <;> simp

theorem lookup_putEntry {β : Type} (k : String) (v : β) (es : List (String × β)) (x : String) :
    (putEntry k v es).lookup x = if x = k then some v else es.lookup x := by
  induction es with
  | nil =>
    by_cases h : x = k
    · simp [putEntry, h]
    · simp [putEntry, List.lookup_cons, beq_eq_false_iff_ne.2 h, h]
  | cons e es ih =>
    obtain ⟨a, b⟩ := e
    by_cases h : a = k <;> by_cases hx : x = a
    · subst h hx; simp [putEntry]
    · subst h
      simp [putEntry, List.lookup_cons, beq_eq_false_iff_ne.2 hx, hx]
    · subst hx; simp [putEntry, h]
    · simp [putEntry, h, List.lookup_cons, beq_eq_false_iff_ne.2 hx, ih]

structure Dict (β : Type) where
  entries : List (String × β)
  nodup : (entries.map Prod.fst).Nodup
  deriving DecidableEq, Repr

namespace Dict

variable {β : Type}

@[ext] theorem ext {a b : Dict β} (h : a.entries = b.entries) : a = b := by
  cases a; cases b; simp_all

def empty : Dict β := ⟨[], by simp⟩

instance : EmptyCollection (Dict β) := ⟨empty⟩

instance : Inhabited (Dict β) := ⟨empty⟩

def keys (d : Dict β) : List String := d.entries.map Prod.fst

def size (d : Dict β) : Nat := d.entries.length

def isEmpty (d : Dict β) : Bool := d.entries.isEmpty

def get? (d : Dict β) (k : String) : Option β := d.entries.lookup k

def contains (d : Dict β) (k : String) : Bool := (d.get? k).isSome

/-- The dictionary with `v` under `k`. A known key keeps its place. -/
def insert (d : Dict β) (k : String) (v : β) : Dict β where
  entries := putEntry k v d.entries
  nodup := by
    rw [keys_putEntry]
    split
    · exact d.nodup
    · rename_i h
      exact List.nodup_append.2 ⟨d.nodup, by simp, by rintro a ha b hb rfl; simp_all⟩

/-- The dictionary with all of the pairs put in, one after another. -/
def insertAll (d : Dict β) (es : List (String × β)) : Dict β :=
  es.foldl (fun d e => d.insert e.1 e.2) d

def ofList (es : List (String × β)) : Dict β := empty.insertAll es

/-- Both dictionaries in one. Where both know a key, the value is that of `incoming`. -/
def merge (d incoming : Dict β) : Dict β := d.insertAll incoming.entries

/-- The same keys with the same values, in whatever order. -/
def sameBy (same : β → β → Bool) (a b : Dict β) : Bool :=
  a.size == b.size && a.entries.all fun e => (b.get? e.1).any (same e.2)

@[simp] theorem entries_empty : (∅ : Dict β).entries = [] := rfl

@[simp] theorem keys_empty : (∅ : Dict β).keys = [] := rfl

@[simp] theorem entries_insert (d : Dict β) (k : String) (v : β) :
    (d.insert k v).entries = putEntry k v d.entries := rfl

theorem keys_insert (d : Dict β) (k : String) (v : β) :
    (d.insert k v).keys = if k ∈ d.keys then d.keys else d.keys ++ [k] :=
  keys_putEntry k v d.entries

theorem get?_insert (d : Dict β) (k : String) (v : β) (x : String) :
    (d.insert k v).get? x = if x = k then some v else d.get? x :=
  lookup_putEntry k v d.entries x

@[simp] theorem insertAll_nil (d : Dict β) : d.insertAll [] = d := rfl

@[simp] theorem insertAll_cons (d : Dict β) (e : String × β) (es : List (String × β)) :
    d.insertAll (e :: es) = (d.insert e.1 e.2).insertAll es := rfl

theorem insertAll_append (d : Dict β) (es fs : List (String × β)) :
    d.insertAll (es ++ fs) = (d.insertAll es).insertAll fs := by
  simp [insertAll]

end Dict

end DotDrawing
