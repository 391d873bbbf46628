import DotDrawing.Proofs.Dict.Merge

/-!
Dictionaries as they are made.

However collecting, inserting and merging follow one another, the outcome is collected from all the
pairs that went in, one after another (`Build.dict_eq_ofList`). So the keys stand in the order in
which they first came, and the last value for each of them counts. Main statement: `merge_laws`.
Dictionaries are equal only with the same order of keys.
-/

namespace DotDrawing.Dict

/-- A way in which a dictionary is made. -/
inductive Build (β : Type)
  | empty
  | collect (es : List (String × β))
  | insert (b : Build β) (k : String) (v : β)
  | merge (b c : Build β)

variable {β : Type}

namespace Build

def dict : Build β → Dict β
  | empty => ∅
  | collect es => ofList es
  | insert b k v => b.dict.insert k v
  | merge b c => b.dict.merge c.dict

/-- The pairs that go in, those of an incoming dictionary behind the others. -/
def pairs : Build β → List (String × β)
  | empty => []
  | collect es => es
  | insert b k v => b.pairs ++ [(k, v)]
  | merge b c => b.pairs ++ c.pairs

lemma dict_eq_ofList (b : Build β) : b.dict = ofList b.pairs := by
  induction b with
  | empty => rfl
  | collect es => rfl
  | insert b k v ih =>
    rw [dict, ih, pairs, ofList, ofList, insertAll_append]
    rfl
  | merge b c ihb ihc => rw [dict, ihb, ihc, pairs, ofList_append]

end Build

lemma keys_ofList (es : List (String × β)) : (ofList es).keys = (es.map Prod.fst).eraseDups := by
  have hkeys := keys_insertAll (∅ : Dict β) es
  rwa [keys_empty, List.nil_append, List.removeAll_nil] at hkeys

/-- **Merging**: dictionaries with `merge` and `∅` are a monoid in which each dictionary merged into
itself is itself. A merged dictionary has the keys of the first in front of the new keys of the
second, and values of the second where it has them. Collecting takes one list behind another to one
dictionary merged with another. And whatever way a dictionary is made, it has each key once, in the
order in which they first came, with the value that came last. -/
theorem merge_laws (a b c : Dict β) :
    ((a.merge b).merge c = a.merge (b.merge c) ∧
      (∅ : Dict β).merge a = a ∧ a.merge ∅ = a ∧ a.merge a = a) ∧
    (∀ k, (a.merge b).get? k = if k ∈ b.keys then b.get? k else a.get? k) ∧
    (a.merge b).keys = a.keys ++ b.keys.filter (· ∉ a.keys) ∧
    (∀ es fs : List (String × β), ofList (es ++ fs) = (ofList es).merge (ofList fs)) ∧
    ∀ m : Build β, m.dict.keys.Nodup ∧ m.dict.keys = (m.pairs.map Prod.fst).eraseDups ∧
      ∀ k, m.dict.get? k = m.pairs.reverse.lookup k := by
  refine ⟨⟨merge_assoc a b c, empty_merge a, merge_empty a, merge_self a⟩, fun k => ?_,
    keys_merge a b, ofList_append, fun m => ⟨nodup_keys _, ?_, fun k => ?_⟩⟩
  · rw [get?_merge]
    split
    · next hk =>
      obtain ⟨v, hv⟩ := Option.isSome_iff_exists.1 (mem_keys_iff.1 hk)
      rw [hv, Option.some_or]
    · next hk => rw [get?_eq_none_iff.2 hk, Option.none_or]
  · rw [m.dict_eq_ofList, keys_ofList]
  · rw [m.dict_eq_ofList, get?_ofList]

/-- A key that comes again keeps its place, on both sides of a merge. -/
example : ((Build.collect [("color", "red"), ("label", "A")]).merge
    ((Build.collect [("shape", "box")]).insert "color" "blue")).dict.entries =
      [("color", "blue"), ("label", "A"), ("shape", "box")] := by decide

end DotDrawing.Dict
