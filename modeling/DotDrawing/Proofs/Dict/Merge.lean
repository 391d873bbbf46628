import DotDrawing.Dict.Basic
import Mathlib.Tactic.Lemma

/-!
Looking up and merging in dictionaries.

A key is looked up successfully exactly when it is listed, and what is found is the one entry under
the key. A new key goes to the end, and a dictionary is rebuilt from its own entries. In which
groups dictionaries are merged makes no difference, not even to the order of the keys
(`merge_assoc`). What all entries satisfy (`All`) is kept when more of such entries come.
-/

namespace DotDrawing.Dict

variable {β : Type}

lemma mem_keys_iff {d : Dict β} {k : String} : k ∈ d.keys ↔ (d.get? k).isSome := by
  simp [keys, get?, List.lookup_isSome_iff]

lemma get?_eq_none_iff {d : Dict β} {k : String} : d.get? k = none ↔ k ∉ d.keys := by
  rw [mem_keys_iff]; simp

lemma contains_iff {d : Dict β} {k : String} : d.contains k ↔ k ∈ d.keys := by
  rw [mem_keys_iff]; rfl

lemma nodup_keys (d : Dict β) : d.keys.Nodup := d.nodup

lemma get?_eq_some_iff {d : Dict β} {k : String} {v : β} :
    d.get? k = some v ↔ (k, v) ∈ d.entries := by
  obtain ⟨es, hes⟩ := d
  simp only [get?]
  induction es with
  | nil => simp
  | cons e es ih =>
    obtain ⟨a, b⟩ := e
    simp only [List.map_cons, List.nodup_cons, List.mem_map, Prod.exists, exists_and_right,
      exists_eq_right, not_exists] at hes
    by_cases hk : k = a
    · subst hk
      have := hes.1 v
      simp only [List.lookup_cons_self, Option.some.injEq, List.mem_cons, Prod.mk.injEq, true_and]
      grind
    · simp [List.lookup_cons, beq_eq_false_iff_ne.2 hk, ih hes.2, hk]

lemma entries_eq_map_keys {d : Dict β} {f : String → β}
    (h : ∀ k ∈ d.keys, d.get? k = some (f k)) : d.entries = d.keys.map fun k => (k, f k) := by
  have he : d.entries.map (fun e => (e.1, f e.1)) = d.entries.map id := by
    refine List.map_congr_left fun e he => ?_
    have hk : e.1 ∈ d.keys := List.mem_map_of_mem he
    have hv : d.get? e.1 = some e.2 := get?_eq_some_iff.2 he
    rw [h e.1 hk, Option.some.injEq] at hv
    simp [hv]
  rw [keys, List.map_map]
  simpa [Function.comp_def] using he.symm

lemma putEntry_of_notMem {k : String} {v : β} {es : List (String × β)}
    (h : k ∉ es.map Prod.fst) : putEntry k v es = es ++ [(k, v)] := by
  induction es with
  | nil => rfl
  | cons e es ih =>
    simp only [List.map_cons, List.mem_cons, not_or] at h
    have he : e.1 ≠ k := fun he => h.1 he.symm
    simp [putEntry, he, ih h.2]

lemma entries_insert_of_notMem {d : Dict β} {k : String} {v : β} (h : k ∉ d.keys) :
    (d.insert k v).entries = d.entries ++ [(k, v)] :=
  putEntry_of_notMem h

lemma keys_insert_of_notMem {d : Dict β} {k : String} {v : β} (h : k ∉ d.keys) :
    (d.insert k v).keys = d.keys ++ [k] := by
  rw [keys_insert, if_neg h]

lemma entries_insertAll_of_disjoint {d : Dict β} {es : List (String × β)}
    (hn : (es.map Prod.fst).Nodup) (hd : ∀ e ∈ es, e.1 ∉ d.keys) :
    (d.insertAll es).entries = d.entries ++ es := by
  induction es generalizing d with
  | nil => simp
  | cons e es ih =>
    simp only [List.map_cons, List.nodup_cons] at hn
    have he : e.1 ∉ d.keys := hd e (by simp)
    have hrest : ∀ f ∈ es, f.1 ∉ (d.insert e.1 e.2).keys := by
      intro f hf
      have hne : f.1 ≠ e.1 := fun h => hn.1 (h ▸ List.mem_map_of_mem hf)
      simp [keys_insert_of_notMem he, hd f (by simp [hf]), hne]
    rw [insertAll_cons, ih hn.2 hrest, entries_insert_of_notMem he]
    simp

@[simp] lemma ofList_entries (d : Dict β) : ofList d.entries = d := by
  ext1
  exact (entries_insertAll_of_disjoint (d := ∅) d.nodup (by simp)).trans (by simp)

@[simp] lemma empty_merge (d : Dict β) : (∅ : Dict β).merge d = d := ofList_entries d

@[simp] lemma merge_empty (d : Dict β) : d.merge ∅ = d := rfl

/-! ### Keys one after another -/

/-- The keys with one more behind them, unless it is there. -/
def addKey (ks : List String) (k : String) : List String := if k ∈ ks then ks else ks ++ [k]

lemma foldl_addKey (ks more : List String) :
    more.foldl addKey ks = ks ++ (more.removeAll ks).eraseDups := by
  induction more generalizing ks with
  | nil => simp
  | cons k more ih =>
    rw [List.foldl_cons, ih, addKey, List.cons_removeAll]
    by_cases h : k ∈ ks
    · simp [h]
    · have hr : more.removeAll (ks ++ [k]) = (more.removeAll ks).filter fun x => !x == k := by
        simp only [List.removeAll, List.filter_filter]
        congr 1
        funext x
        by_cases hx : x = k <;> simp [hx]
      simp [h, hr, List.eraseDups_cons]

lemma keys_insertAll (d : Dict β) (es : List (String × β)) :
    (d.insertAll es).keys = d.keys ++ ((es.map Prod.fst).removeAll d.keys).eraseDups := by
  have hstep (d : Dict β) (e : String × β) : addKey d.keys e.1 = (d.insert e.1 e.2).keys :=
    (keys_insert d e.1 e.2).symm
  rw [← foldl_addKey, List.foldl_map, insertAll, List.foldl_hom keys hstep]

lemma mem_keys_insertAll {d : Dict β} {es : List (String × β)} {k : String} :
    k ∈ (d.insertAll es).keys ↔ k ∈ d.keys ∨ k ∈ es.map Prod.fst := by
  rw [keys_insertAll]
  by_cases h : k ∈ d.keys <;> simp [List.mem_eraseDups, List.removeAll, h]

lemma eraseDups_of_nodup {ks : List String} (h : ks.Nodup) : ks.eraseDups = ks := by
  induction ks with
  | nil => rfl
  | cons k ks ih =>
    rw [List.nodup_cons] at h
    have hne : ∀ x ∈ ks, (!x == k) = true := by
      intro x hx
      have hxk : x ≠ k := fun he => h.1 (he ▸ hx)
      simp [hxk]
    rw [List.eraseDups_cons, List.filter_eq_self.2 hne, ih h.2]

/-! ### Merging dictionaries -/

lemma insert_of_get?_eq_some {d : Dict β} {k : String} {v : β} (h : d.get? k = some v) :
    d.insert k v = d := by
  have put (es : List (String × β)) (hes : es.lookup k = some v) : putEntry k v es = es := by
    induction es with
    | nil => cases hes
    | cons e es ih =>
      obtain ⟨a, b⟩ := e
      by_cases ha : a = k
      · subst ha
        rw [List.lookup_cons_self, Option.some.injEq] at hes
        simp [putEntry, hes]
      · have hka : (k == a) = false := beq_eq_false_iff_ne.2 (Ne.symm ha)
        rw [List.lookup_cons, hka] at hes
        simp [putEntry, ha, ih hes]
  exact Dict.ext (put d.entries h)

lemma insertAll_eq_self {d : Dict β} {es : List (String × β)}
    (h : ∀ e ∈ es, d.get? e.1 = some e.2) : d.insertAll es = d := by
  induction es with
  | nil => rfl
  | cons e es ih =>
    rw [insertAll_cons, insert_of_get?_eq_some (h e (by simp))]
    exact ih fun f hf => h f (by simp [hf])

lemma get?_insertAll (d : Dict β) (es : List (String × β)) (k : String) :
    (d.insertAll es).get? k = (es.reverse.lookup k).or (d.get? k) := by
  induction es generalizing d with
  | nil => rfl
  | cons e es ih =>
    obtain ⟨a, v⟩ := e
    rw [insertAll_cons, ih, get?_insert, List.reverse_cons, List.lookup_append, Option.or_assoc]
    by_cases h : k = a
    · simp [h]
    · simp [List.lookup_cons, beq_eq_false_iff_ne.2 h, h]

lemma get?_ofList (es : List (String × β)) (k : String) :
    (ofList es).get? k = es.reverse.lookup k := by
  rw [ofList, get?_insertAll]
  exact Option.or_none

lemma get?_merge (d x : Dict β) (k : String) : (d.merge x).get? k = (x.get? k).or (d.get? k) := by
  rw [merge, get?_insertAll, ← get?_ofList, ofList_entries]

lemma merge_self (d : Dict β) : d.merge d = d :=
  insertAll_eq_self fun _ he => get?_eq_some_iff.2 he

/-! ### Merging in order -/

lemma ext_get? {a b : Dict β} (hk : a.keys = b.keys) (hv : ∀ k ∈ a.keys, a.get? k = b.get? k) :
    a = b := by
  by_cases hb : b.entries = []
  · have ha : a.entries = [] := by
      rw [keys, keys, hb] at hk
      exact List.map_eq_nil_iff.1 hk
    exact Dict.ext (ha.trans hb.symm)
  · obtain ⟨⟨_, v₀⟩, -, -⟩ := List.exists_cons_of_ne_nil hb
    have hget (k : String) (hmem : k ∈ b.keys) : b.get? k = some ((b.get? k).getD v₀) := by
      obtain ⟨v, hv⟩ := Option.isSome_iff_exists.1 (mem_keys_iff.1 hmem)
      rw [hv, Option.getD_some]
    ext1
    rw [entries_eq_map_keys hget, ← hk]
    exact entries_eq_map_keys fun k hmem => (hv k hmem).trans (hget k (hk ▸ hmem))

lemma keys_merge (d x : Dict β) : (d.merge x).keys = d.keys ++ x.keys.filter (· ∉ d.keys) := by
  have hnew : (x.keys.removeAll d.keys).eraseDups = x.keys.removeAll d.keys :=
    eraseDups_of_nodup (x.nodup_keys.filter _)
  rw [merge, keys_insertAll]
  exact congrArg (d.keys ++ ·) (hnew.trans (List.filter_congr fun k _ => by simp))

lemma merge_insert (d x : Dict β) (k : String) (v : β) :
    d.merge (x.insert k v) = (d.merge x).insert k v := by
  refine ext_get? ?_ fun y _ => ?_
  · rw [keys_merge, keys_insert, keys_insert, keys_merge]
    by_cases hx : k ∈ x.keys <;> by_cases hd : k ∈ d.keys <;> simp [hx, hd]
  · rw [get?_merge, get?_insert, get?_insert, get?_merge]
    split <;> rfl

lemma merge_insertAll (d x : Dict β) (es : List (String × β)) :
    d.merge (x.insertAll es) = (d.merge x).insertAll es := by
  induction es generalizing x with
  | nil => rfl
  | cons e es ih => rw [insertAll_cons, ih, merge_insert, insertAll_cons]

lemma merge_assoc (a b c : Dict β) : (a.merge b).merge c = a.merge (b.merge c) :=
  (merge_insertAll a b c.entries).symm

lemma merge_merge_self (d x : Dict β) : (d.merge x).merge x = d.merge x := by
  rw [merge_assoc, merge_self]

lemma ofList_append (es fs : List (String × β)) :
    ofList (es ++ fs) = (ofList es).merge (ofList fs) := by
  rw [ofList, insertAll_append, ofList, ofList, merge_insertAll]
  rfl

lemma insert_insert (d : Dict β) (k : String) (u v : β) :
    (d.insert k u).insert k v = d.insert k v := by
  refine ext_get? ?_ fun x _ => ?_
  · simp only [keys_insert]
    by_cases hk : k ∈ d.keys <;> simp [hk]
  · simp only [get?_insert]
    split <;> rfl

/-! ### Keys that are put in only when they are new -/

/-- The dictionary with `v` under `k`, unless it knows the key. -/
def insertNew (d : Dict β) (k : String) (v : β) : Dict β :=
  if d.contains k then d else d.insert k v

lemma keys_insertNew (d : Dict β) (k : String) (v : β) :
    (d.insertNew k v).keys = if k ∈ d.keys then d.keys else d.keys ++ [k] := by
  unfold insertNew
  by_cases h : k ∈ d.keys
  · simp [contains_iff.2 h, h]
  · simp [contains_iff, h, keys_insert_of_notMem h]

lemma get?_insertNew (d : Dict β) (k : String) (v : β) (x : String) :
    (d.insertNew k v).get? x = if x = k then (d.get? x).or (some v) else d.get? x := by
  unfold insertNew
  by_cases h : k ∈ d.keys
  · rw [if_pos (contains_iff.2 h)]
    split
    · next hx => subst hx; rw [mem_keys_iff, Option.isSome_iff_exists] at h; grind
    · rfl
  · rw [if_neg (by simpa [contains_iff] using h), get?_insert]
    split
    · next hx => subst hx; simp [get?_eq_none_iff.2 h]
    · rfl

lemma insertNew_of_mem {d : Dict β} {k : String} (v : β) (h : k ∈ d.keys) :
    d.insertNew k v = d := by
  rw [insertNew, if_pos (contains_iff.2 h)]

lemma insertNew_insertNew_self (d : Dict β) (k : String) (v : β) :
    (d.insertNew k v).insertNew k v = d.insertNew k v := by
  refine insertNew_of_mem v ?_
  rw [keys_insertNew]
  split <;> simp [*]

lemma keys_foldl_insertNew (ks : List String) (d : Dict β) (v : β) :
    (ks.foldl (fun d k => d.insertNew k v) d).keys = d.keys ++ (ks.removeAll d.keys).eraseDups := by
  have hstep (d : Dict β) (k : String) : addKey d.keys k = (d.insertNew k v).keys :=
    (keys_insertNew d k v).symm
  rw [← foldl_addKey, List.foldl_hom keys hstep]

lemma get?_foldl_insertNew (ks : List String) (d : Dict β) (v : β) (x : String) :
    (ks.foldl (fun d k => d.insertNew k v) d).get? x =
      if x ∈ ks then (d.get? x).or (some v) else d.get? x := by
  induction ks generalizing d with
  | nil => simp
  | cons k ks ih =>
    rw [List.foldl_cons, ih, get?_insertNew]
    by_cases hx : x = k
    · subst hx
      by_cases hm : x ∈ ks <;> simp [hm]
    · by_cases hm : x ∈ ks <;> simp [hx, hm]

/-! ### What all entries satisfy -/

section

variable {P : String → β → Prop} {d x : Dict β} {k : String} {v : β}

/-- Every entry satisfies `P`. -/
def All (P : String → β → Prop) (d : Dict β) : Prop := ∀ e ∈ d.entries, P e.1 e.2

lemma all_empty : (∅ : Dict β).All P := by simp [All]

lemma All.get? (h : d.All P) (hk : d.get? k = some v) : P k v := h (k, v) (get?_eq_some_iff.1 hk)

lemma All.insert (h : d.All P) (hv : P k v) : (d.insert k v).All P := by
  have put (es : List (String × β)) (hes : ∀ e ∈ es, P e.1 e.2) :
      ∀ e ∈ putEntry k v es, P e.1 e.2 := by
    induction es with
    | nil => simpa [putEntry] using hv
    | cons e es ih =>
      rw [List.forall_mem_cons] at hes
      rw [putEntry]
      split
      · exact List.forall_mem_cons.2 ⟨hv, hes.2⟩
      · exact List.forall_mem_cons.2 ⟨hes.1, ih hes.2⟩
  exact put d.entries h

lemma All.insertAll {es : List (String × β)} (h : d.All P) (hes : ∀ e ∈ es, P e.1 e.2) :
    (d.insertAll es).All P := by
  induction es generalizing d with
  | nil => exact h
  | cons e es ih =>
    rw [List.forall_mem_cons] at hes
    exact ih (h.insert hes.1) hes.2

lemma All.merge (h : d.All P) (hx : x.All P) : (d.merge x).All P := h.insertAll hx

lemma All.insertNew (h : d.All P) (hv : P k v) : (d.insertNew k v).All P := by
  unfold Dict.insertNew
  split
  · exact h
  · exact h.insert hv

lemma All.imp {Q : String → β → Prop} (h : d.All P) (hPQ : ∀ k v, P k v → Q k v) : d.All Q :=
  fun e he => hPQ e.1 e.2 (h e he)

end

end DotDrawing.Dict
