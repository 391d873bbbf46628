import DotDrawing.Proofs.Graph.Soundness
import Mathlib.Data.List.Induction

/-!
Edges as groups of calls.

A strict graph has one edge for each group of calls between the same ends, in the order of the first
calls and each with the ends of the first call of its group; all calls of the group have given their
attributes to it, in order. A graph that is not strict has one edge for each call. Main statement:
`edges_run_empty`.
-/

namespace DotDrawing.Graph

/-! ### The same ends -/

namespace Kind

variable {kind : Kind} {p q r : String × String}

lemma SameEnds.refl (kind : Kind) (p : String × String) : kind.SameEnds p p := Or.inl rfl

lemma SameEnds.symm (h : kind.SameEnds p q) : kind.SameEnds q p := by
  rcases h with rfl | ⟨hk, rfl⟩
  · exact refl kind p
  · exact Or.inr ⟨hk, rfl⟩

lemma SameEnds.trans (h : kind.SameEnds p q) (h' : kind.SameEnds q r) : kind.SameEnds p r := by
  rcases h with rfl | ⟨hk, rfl⟩
  · exact h'
  · rcases h' with rfl | ⟨-, rfl⟩
    · exact Or.inr ⟨hk, rfl⟩
    · exact Or.inl (Prod.swap_swap r)

end Kind

/-! ### Groups of calls -/

/-- The edge that the operation calls for. -/
def Operation.call? : Operation → Option Edge
  | addEdge source target _ attributes => some ⟨source, target, attributes⟩
  | _ => none

/-- The calls for edges among the operations, in order. -/
def calls (ops : List Operation) : List Edge := ops.filterMap Operation.call?

/-- The calls without those that have the ends of an earlier one. -/
def firstCalls (kind : Kind) : List Edge → List Edge
  | [] => []
  | c :: cs => c :: (firstCalls kind cs).filter fun d => ¬ kind.SameEnds d.ends c.ends

/-- The edge between the ends of `c` with the attributes of all calls for these ends, later ones
over earlier ones. -/
def groupOf (kind : Kind) (cs : List Edge) (c : Edge) : Edge :=
  { c with attributes :=
      ((cs.filter fun d => kind.SameEnds d.ends c.ends).map Edge.attributes).foldl Dict.merge ∅ }

/-- One edge for each group of calls between the same ends, in the order of the first calls. -/
def grouped (kind : Kind) (cs : List Edge) : List Edge :=
  (firstCalls kind cs).map (groupOf kind cs)

variable {kind : Kind} {cs : List Edge} {c d : Edge}

lemma firstCalls_concat (kind : Kind) (cs : List Edge) (c : Edge) :
    firstCalls kind (cs ++ [c]) =
      if ∃ d ∈ cs, kind.SameEnds d.ends c.ends then firstCalls kind cs
      else firstCalls kind cs ++ [c] := by
  induction cs with
  | nil => simp [firstCalls]
  | cons d cs ih =>
    rw [List.cons_append, firstCalls, ih, firstCalls]
    by_cases hd : kind.SameEnds d.ends c.ends
    · by_cases hcs : ∃ d ∈ cs, kind.SameEnds d.ends c.ends
      · simp [hcs]
      · simp [hcs, hd, hd.symm]
    · have hd' : ¬ kind.SameEnds c.ends d.ends := fun h => hd h.symm
      by_cases hcs : ∃ d ∈ cs, kind.SameEnds d.ends c.ends
      · simp [hcs]
      · simp [hcs, hd, hd']

/-- The edge after a call, which gives its attributes to an edge between its ends. -/
def restated (kind : Kind) (c e : Edge) : Edge :=
  if kind.SameEnds e.ends c.ends then { e with attributes := e.attributes.merge c.attributes }
  else e

lemma restated_of_sameEnds {e : Edge} (h : kind.SameEnds e.ends c.ends) :
    restated kind c e = { e with attributes := e.attributes.merge c.attributes } := if_pos h

lemma restated_of_not_sameEnds {e : Edge} (h : ¬ kind.SameEnds e.ends c.ends) :
    restated kind c e = e := if_neg h

lemma ends_groupOf : (groupOf kind cs c).ends = c.ends := rfl

lemma groupOf_concat (kind : Kind) (cs : List Edge) (c d : Edge) :
    groupOf kind (cs ++ [c]) d = restated kind c (groupOf kind cs d) := by
  unfold restated
  rw [ends_groupOf]
  by_cases h : kind.SameEnds d.ends c.ends
  · simp [groupOf, h, h.symm]
  · have h' : ¬ kind.SameEnds c.ends d.ends := fun hc => h hc.symm
    simp [groupOf, h, h']

lemma groupOf_first (h : ∀ d ∈ cs, ¬ kind.SameEnds d.ends c.ends) :
    groupOf kind (cs ++ [c]) c = c := by
  have hnil : cs.filter (fun d => decide (kind.SameEnds d.ends c.ends)) = [] := by
    simpa [List.filter_eq_nil_iff] using h
  simp [groupOf, hnil, Kind.SameEnds.refl]

lemma firstCalls_subset : firstCalls kind cs ⊆ cs := by
  induction cs with
  | nil => simp [firstCalls]
  | cons c cs ih => exact List.cons_subset_cons c fun d hd => ih (List.mem_filter.1 hd).1

lemma exists_mem_firstCalls (kind : Kind) (hc : c ∈ cs) :
    ∃ d ∈ firstCalls kind cs, kind.SameEnds d.ends c.ends := by
  induction cs with
  | nil => simp at hc
  | cons x cs ih =>
    by_cases hx : kind.SameEnds x.ends c.ends
    · exact ⟨x, List.mem_cons_self, hx⟩
    · have hne : c ≠ x := by
        rintro rfl
        exact hx (.refl kind _)
      -- the first call of the others is no call between the ends of `x` either
      obtain ⟨d, hd, hdc⟩ := ih ((List.mem_cons.1 hc).resolve_left hne)
      refine ⟨d, List.mem_cons_of_mem _ (List.mem_filter.2 ⟨hd, ?_⟩), hdc⟩
      simpa using fun hdx => hx (hdx.symm.trans hdc)

lemma mem_grouped_sameEnds {p : String × String} :
    (∃ e ∈ grouped kind cs, kind.SameEnds e.ends p) ↔ ∃ c ∈ cs, kind.SameEnds c.ends p := by
  constructor
  · rintro ⟨e, he, hep⟩
    obtain ⟨c, hc, rfl⟩ := List.mem_map.1 he
    exact ⟨c, firstCalls_subset hc, hep⟩
  · rintro ⟨c, hc, hcp⟩
    obtain ⟨d, hd, hdc⟩ := exists_mem_firstCalls kind hc
    exact ⟨groupOf kind cs d, List.mem_map_of_mem hd, hdc.trans hcp⟩

lemma grouped_concat (kind : Kind) (cs : List Edge) (c : Edge) :
    grouped kind (cs ++ [c]) =
      if ∃ d ∈ cs, kind.SameEnds d.ends c.ends then (grouped kind cs).map (restated kind c)
      else grouped kind cs ++ [c] := by
  rw [grouped, firstCalls_concat]
  split
  · simp [grouped, groupOf_concat]
  · next h =>
    have hother : ∀ d ∈ cs, ¬ kind.SameEnds d.ends c.ends := fun d hd hdc => h ⟨d, hd, hdc⟩
    rw [List.map_append, List.map_singleton, groupOf_first hother, grouped]
    refine congrArg (· ++ [c]) (List.map_congr_left fun d hd => ?_)
    have hd : ¬ kind.SameEnds d.ends c.ends := hother d (firstCalls_subset hd)
    rw [groupOf_concat]
    exact restated_of_not_sameEnds hd

/-! ### The edges of a graph -/

variable {g : Graph}

lemma joinedEdges_of_strict (hs : g.strict) (hg : g.Simple) (source target : String)
    (attributes : Attributes) : (g.joinedEdges source target attributes).1 =
      if ∃ e ∈ g.edges, g.kind.SameEnds e.ends (source, target) then
        g.edges.map (restated g.kind ⟨source, target, attributes⟩)
      else g.edges ++ [⟨source, target, attributes⟩] := by
  have hpair := hg hs
  rcases joinedEdges_cases g source target attributes with
    ⟨hn, hj⟩ | ⟨-, before, e, after, hes, he, hb, hj⟩
  · have hnone : ¬ ∃ e ∈ g.edges, g.kind.SameEnds e.ends (source, target) :=
      fun ⟨e, hm, hsame⟩ => hn hs e hm hsame
    rw [hj, if_neg hnone]
  · have he : g.kind.SameEnds e.ends (Edge.ends ⟨source, target, attributes⟩) := he
    -- no other edge has these ends, so the call restates this one alone
    have hbefore : before.map (restated g.kind ⟨source, target, attributes⟩) = before := by
      refine (List.map_congr_left fun f hf => ?_).trans (List.map_id _)
      exact restated_of_not_sameEnds (hb f hf)
    have hafter : after.map (restated g.kind ⟨source, target, attributes⟩) = after := by
      refine (List.map_congr_left fun f hf => ?_).trans (List.map_id _)
      rw [hes, List.map_append, List.map_cons, List.pairwise_append, List.pairwise_cons] at hpair
      have hef : ¬ g.kind.SameEnds e.ends f.ends := hpair.2.1.1 f.ends (List.mem_map_of_mem hf)
      exact restated_of_not_sameEnds fun hf => hef (he.trans hf.symm)
    have hsome : ∃ e ∈ g.edges, g.kind.SameEnds e.ends (source, target) := ⟨e, by simp [hes], he⟩
    rw [hj, if_pos hsome, hes, List.map_append, List.map_cons, hbefore, hafter,
      restated_of_sameEnds he]

lemma kind_run (g : Graph) (ops : List Operation) : (g.run ops).kind = g.kind := by
  induction ops generalizing g with
  | nil => rfl
  | cons op ops ih => exact (ih _).trans (continues_apply g op).kind

lemma strict_run (g : Graph) (ops : List Operation) : (g.run ops).strict = g.strict := by
  induction ops generalizing g with
  | nil => rfl
  | cons op ops ih => exact (ih _).trans (continues_apply g op).strict

lemma edges_apply_of_call?_eq_none {op : Operation} (h : op.call? = none) :
    (op.apply g).edges = g.edges := by
  cases op with
  | addEdge source target defaults attributes => cases h
  | ensureNode id defaults => exact edges_ensureNode
  | upsertNode | mergeAttributes => rfl

lemma calls_concat (ops : List Operation) (op : Operation) :
    calls (ops ++ [op]) = calls ops ++ op.call?.toList := by
  cases h : op.call? <;> simp [calls, h]

lemma run_concat (g : Graph) (ops : List Operation) (op : Operation) :
    g.run (ops ++ [op]) = op.apply (g.run ops) := by
  simp [run]

lemma edges_apply_of_call?_eq_some {op : Operation} (h : op.call? = some c) :
    (op.apply g).edges = (g.joinedEdges c.source c.target c.attributes).1 := by
  cases op with
  | addEdge source target defaults attributes =>
    cases h
    exact edges_addEdge
  | _ => cases h

lemma edges_run_strict (kind : Kind) (id : String) (ops : List Operation) :
    ((empty kind true id).run ops).edges = grouped kind (calls ops) := by
  induction ops using List.reverseRecOn with
  | nil => rfl
  | append_singleton ops op ih =>
    rw [run_concat, calls_concat]
    cases h : op.call? with
    | none => rw [edges_apply_of_call?_eq_none h, ih, Option.toList_none, List.append_nil]
    | some c =>
      have hs : ((empty kind true id).run ops).strict = true := strict_run ..
      have hk : ((empty kind true id).run ops).kind = kind := kind_run ..
      have hg : ((empty kind true id).run ops).Simple := simple_run (fun _ => by simp [empty]) ops
      have hc : (∃ e ∈ grouped kind (calls ops), kind.SameEnds e.ends (c.source, c.target)) ↔
          ∃ d ∈ calls ops, kind.SameEnds d.ends c.ends := mem_grouped_sameEnds
      rw [edges_apply_of_call?_eq_some h, joinedEdges_of_strict hs hg, hk, ih, Option.toList_some,
        grouped_concat, if_congr hc rfl rfl]

lemma edges_run_not_strict (kind : Kind) (id : String) (ops : List Operation) :
    ((empty kind false id).run ops).edges = calls ops := by
  induction ops using List.reverseRecOn with
  | nil => rfl
  | append_singleton ops op ih =>
    rw [run_concat, calls_concat]
    cases h : op.call? with
    | none => rw [edges_apply_of_call?_eq_none h, ih, Option.toList_none, List.append_nil]
    | some c =>
      have hs : ((empty kind false id).run ops).strict = false := strict_run ..
      rw [edges_apply_of_call?_eq_some h, joinedEdges, hs, ih]
      rfl

lemma nodeAttributes_apply_congr {h : Graph} (hn : g.nodeAttributes = h.nodeAttributes)
    (op : Operation) : (op.apply g).nodeAttributes = (op.apply h).nodeAttributes := by
  cases op with
  | ensureNode id defaults => simp [Operation.apply, nodeAttributes_ensureNode, hn]
  | upsertNode id defaults attributes => simp [Operation.apply, upsertNode, hn]
  | addEdge source target defaults attributes => simp [Operation.apply, nodeAttributes_addEdge, hn]
  | mergeAttributes incoming => exact hn

lemma nodeAttributes_run_congr {h : Graph} (hn : g.nodeAttributes = h.nodeAttributes)
    (ops : List Operation) : (g.run ops).nodeAttributes = (h.run ops).nodeAttributes := by
  induction ops generalizing g h with
  | nil => exact hn
  | cons op ops ih => exact ih (nodeAttributes_apply_congr hn op)

/-- **Edges are groups of calls**: after any operations on an empty strict graph there is one edge
for each group of calls between the same ends, in the order and with the ends of the first calls,
and with the attributes of all calls of the group; in a graph that is not strict each call is an
edge. The nodes are the same in both graphs. -/
theorem edges_run_empty (kind : Kind) (id : String) (ops : List Operation) :
    ((empty kind true id).run ops).edges = grouped kind (calls ops) ∧
      ((empty kind false id).run ops).edges = calls ops ∧
      ((empty kind true id).run ops).nodes = ((empty kind false id).run ops).nodes := by
  refine ⟨edges_run_strict kind id ops, edges_run_not_strict kind id ops, ?_⟩
  have hn : ((empty kind true id).run ops).nodeAttributes =
      ((empty kind false id).run ops).nodeAttributes :=
    nodeAttributes_run_congr (g := empty kind true id) (h := empty kind false id) rfl ops
  rw [nodes, nodes, hn]

end DotDrawing.Graph
