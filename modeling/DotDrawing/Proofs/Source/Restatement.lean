import DotDrawing.Proofs.Graph.Grouping
import DotDrawing.Proofs.Source.Meaning

/-!
Edges that are stated once more.

A statement on an edge that a strict graph has already gives it the list of the statement over the
edge defaults in force. The defaults reach the edge although it is older than the statement: a value
of its own stays only where the list says nothing and no default says otherwise. Main statement:
`edges_restated`.
-/

namespace DotDrawing

namespace Graph

variable {g : Graph} {kind : Kind} {i : Nat} {e : Edge} {attributes : Attributes}

/-! ### An edge along a run -/

lemma getElem?_edges_apply (hs : g.strict) (hg : g.Simple) (he : g.edges[i]? = some e)
    (op : Operation) :
    (op.apply g).edges[i]? = some (op.call?.toList.foldl (fun e c => restated g.kind c e) e) := by
  cases h : op.call? with
  | none => rw [edges_apply_of_call?_eq_none h, he]; rfl
  | some c =>
    rw [edges_apply_of_call?_eq_some h, joinedEdges_of_strict hs hg]
    split
    · simp [he]
    · next hnone =>
      have hother : ¬ g.kind.SameEnds e.ends c.ends :=
        fun hsame => hnone ⟨e, List.mem_of_getElem? he, hsame⟩
      have hlt : i < g.edges.length := (List.getElem?_eq_some_iff.1 he).1
      rw [List.getElem?_append_left hlt, he]
      exact congrArg some (restated_of_not_sameEnds hother).symm

/-- Along a run on a strict graph an edge stays where it is and takes in what the calls give it. -/
lemma getElem?_edges_run (hs : g.strict) (hg : g.Simple) (he : g.edges[i]? = some e)
    (ops : List Operation) :
    (g.run ops).edges[i]? = some ((calls ops).foldl (fun e c => restated g.kind c e) e) := by
  induction ops generalizing g e with
  | nil => exact he
  | cons op ops ih =>
    have hcalls : calls (op :: ops) = op.call?.toList ++ calls ops := by
      cases h : op.call? <;> simp [calls, h]
    have hc := continues_apply g op
    have hrun := ih (hc.strict.trans hs) (simple_apply hg op) (getElem?_edges_apply hs hg he op)
    rw [hc.kind] at hrun
    rw [hcalls, List.foldl_append]
    exact hrun

lemma foldl_restated {cs : List Edge} (h : ∀ c ∈ cs, c.attributes = attributes) :
    cs.foldl (fun e c => restated kind c e) e =
      if ∃ c ∈ cs, kind.SameEnds e.ends c.ends then
        { e with attributes := e.attributes.merge attributes }
      else e := by
  induction cs generalizing e with
  | nil => simp
  | cons c cs ih =>
    rw [List.foldl_cons, ih fun d hd => h d (by simp [hd])]
    by_cases hc : kind.SameEnds e.ends c.ends
    · rw [restated_of_sameEnds hc, h c (by simp)]
      simp only [List.mem_cons, exists_eq_or_imp, hc, true_or, if_true]
      split
      · -- a call further on merges the same attributes again
        rw [Dict.merge_merge_self]
      · rfl
    · rw [restated_of_not_sameEnds hc]
      simp [hc]

end Graph

/-! ### Statements as operations -/

namespace Builder

open DotDrawing.Graph (Operation)

/-- The calls for the edges along a chain. -/
def chainCalls (nodeDefaults attributes : Attributes) (ids : List String) : List Operation :=
  (ids.zip ids.tail).map fun p => .addEdge p.1 p.2 nodeDefaults attributes

lemma joinChain_eq_run (g : Graph) (nodeDefaults attributes : Attributes) (ids : List String) :
    joinChain g nodeDefaults attributes ids = g.run (chainCalls nodeDefaults attributes ids) := by
  fun_induction joinChain g nodeDefaults attributes ids with
  | case1 g a b ids ih => exact ih
  | case2 ids g hids =>
    rcases ids with _ | ⟨a, _ | ⟨b, ids⟩⟩
    · rfl
    · rfl
    · exact absurd rfl (hids a b ids)

lemma calls_chainCalls (nodeDefaults attributes : Attributes) (ids : List String) :
    Graph.calls (chainCalls nodeDefaults attributes ids) = Statement.chainEdges ids attributes := by
  simp [Graph.calls, chainCalls, Statement.chainEdges, List.filterMap_map, Function.comp_def,
    Operation.call?]

lemma exists_run_apply (b : Builder) (s : Statement) :
    ∃ ops, (b.apply s).graph = b.graph.run ops := by
  cases s with
  | edges ids attributes => exact ⟨_, joinChain_eq_run ..⟩
  | node id attributes => exact ⟨[.upsertNode id b.nodeDefaults attributes], rfl⟩
  | defaults target attributes =>
    cases target with
    | graph => exact ⟨[.mergeAttributes attributes], rfl⟩
    | node | edge => exact ⟨[], rfl⟩
  | assignment key value => exact ⟨[.mergeAttributes (Dict.ofList [(key, value)])], rfl⟩

lemma exists_run_applyAll (b : Builder) (ss : List Statement) :
    ∃ ops, (b.applyAll ss).graph = b.graph.run ops := by
  induction ss generalizing b with
  | nil => exact ⟨[], rfl⟩
  | cons s ss ih =>
    obtain ⟨ops, hops⟩ := b.exists_run_apply s
    obtain ⟨more, hmore⟩ := ih (b.apply s)
    refine ⟨ops ++ more, ?_⟩
    rw [Graph.run, List.foldl_append]
    rw [hops] at hmore
    exact hmore

end Builder

/-! ### The state behind a part of the statements -/

namespace Source

/-- The graph and the defaults of the source when the statements have been applied. -/
def builderAfter (s : Source) (ss : List Statement) : Builder :=
  (Builder.start s.start).applyAll ss

variable {s : Source} {ss : List Statement}

lemma builderAfter_concat (s : Source) (ss : List Statement) (st : Statement) :
    s.builderAfter (ss ++ [st]) = (s.builderAfter ss).apply st := by
  simp [builderAfter, Builder.applyAll]

lemma kind_builderAfter : (s.builderAfter ss).graph.kind = s.start.kind := by
  obtain ⟨ops, hops⟩ := (Builder.start s.start).exists_run_applyAll ss
  rw [builderAfter, hops, Graph.kind_run]
  rfl

lemma strict_builderAfter : (s.builderAfter ss).graph.strict = s.start.strict := by
  obtain ⟨ops, hops⟩ := (Builder.start s.start).exists_run_applyAll ss
  rw [builderAfter, hops, Graph.strict_run]
  rfl

lemma simple_builderAfter : (s.builderAfter ss).graph.Simple := by
  obtain ⟨ops, hops⟩ := (Builder.start s.start).exists_run_applyAll ss
  obtain ⟨kind, strict, id, hstart⟩ := s.start_eq_empty
  rw [builderAfter, hops, hstart]
  exact Graph.simple_run (fun _ => by simp [Builder.start, Graph.empty]) ops

lemma edgeDefaults_builderAfter (h : ss ⊆ s.accepted) :
    (s.builderAfter ss).edgeDefaults = mergeAll (ss.filterMap Statement.edgeDefaults?) := by
  obtain ⟨kind, strict, id, hstart⟩ := s.start_eq_empty
  rw [builderAfter, hstart]
  exact (Builder.reflects_applyAll kind strict id ss fun ids attributes hm =>
    two_le_length_of_mem_accepted (h hm)).edgeDefaults

end Source

/-! ### One more statement on an edge -/

lemma Builder.getElem?_edges_apply {b : Builder} {ids : List String} {attributes : Attributes}
    {i : Nat} {e : Edge} (hs : b.graph.strict) (hg : b.graph.Simple)
    (he : b.graph.edges[i]? = some e)
    (hr : ∃ p ∈ ids.zip ids.tail, b.graph.kind.SameEnds e.ends p) :
    (b.apply (.edges ids attributes)).graph.edges[i]? =
      some { e with attributes := e.attributes.merge (b.edgeDefaults.merge attributes) } := by
  have hsame : ∃ c ∈ Statement.chainEdges ids (b.edgeDefaults.merge attributes),
      b.graph.kind.SameEnds e.ends c.ends := by
    obtain ⟨p, hp, hep⟩ := hr
    exact ⟨_, List.mem_map_of_mem hp, hep⟩
  have hlist : ∀ c ∈ Statement.chainEdges ids (b.edgeDefaults.merge attributes),
      c.attributes = b.edgeDefaults.merge attributes := by
    intro c hc
    obtain ⟨p, -, rfl⟩ := List.mem_map.1 hc
    rfl
  have hrun := Graph.getElem?_edges_run hs hg he
    (chainCalls b.nodeDefaults (b.edgeDefaults.merge attributes) ids)
  rw [calls_chainCalls, Graph.foldl_restated hlist, if_pos hsame] at hrun
  exact (congrArg (fun g : Graph => g.edges[i]?) (joinChain_eq_run ..)).trans hrun

/-- With defaults below the list, the outcome is that of the list alone where the list sets what
they set, or where it is so already. -/
lemma get?_merge_defaults_iff (old defaults list : Attributes) :
    (∀ k, (old.merge (defaults.merge list)).get? k = (old.merge list).get? k) ↔
      ∀ k v, defaults.get? k = some v → k ∉ list.keys → old.get? k = some v := by
  simp only [Dict.get?_merge]
  constructor
  · intro h k v hv hk
    -- outside the list the default has the last word
    have hlist : list.get? k = none := Dict.get?_eq_none_iff.2 hk
    have := h k
    rw [hlist, hv] at this
    exact this.symm
  · intro h k
    cases hlist : list.get? k with
    | some v => rfl
    | none =>
      cases hv : defaults.get? k with
      | none => rfl
      | some v => exact (h k v hv (Dict.get?_eq_none_iff.1 hlist)).symm

/-- **Restated edges**: in a strict graph a statement on an edge that is there already merges into
its attributes the list of the statement over the edge defaults in force. That comes to the list
alone exactly when each of these defaults is set by the list or is what the edge has. -/
theorem edges_restated {s : String} {header : Header} {earlier later : List Statement}
    {ids : List String} {attributes : Attributes} {i : Nat} {e : Edge}
    (hh : (Source.ofString s).header? = some header) (hs : header.strict = true)
    (hss : (Source.ofString s).accepted = earlier ++ .edges ids attributes :: later)
    (he : ((Source.ofString s).builderAfter earlier).graph.edges[i]? = some e)
    (hr : ∃ p ∈ ids.zip ids.tail, header.kind.SameEnds e.ends p) :
    ∃ merged : Attributes,
      ((Source.ofString s).builderAfter (earlier ++ [.edges ids attributes])).graph.edges[i]? =
        some { e with attributes := merged } ∧
      merged = e.attributes.merge
        ((mergeAll (earlier.filterMap Statement.edgeDefaults?)).merge attributes) ∧
      ((∀ k, merged.get? k = (e.attributes.merge attributes).get? k) ↔
        ∀ k v, (mergeAll (earlier.filterMap Statement.edgeDefaults?)).get? k = some v →
          k ∉ attributes.keys → e.attributes.get? k = some v) := by
  have hstart : (Source.ofString s).start = header.graph := by
    rw [Source.start, hh]
    rfl
  have hearlier : earlier ⊆ (Source.ofString s).accepted := by
    rw [hss]
    exact List.subset_append_left ..
  have hstrict : ((Source.ofString s).builderAfter earlier).graph.strict := by
    rw [Source.strict_builderAfter, hstart]
    exact hs
  have hkind : ((Source.ofString s).builderAfter earlier).graph.kind = header.kind := by
    rw [Source.kind_builderAfter, hstart]
    rfl
  rw [← hkind] at hr
  refine ⟨_, ?_, rfl, get?_merge_defaults_iff ..⟩
  rw [← Source.edgeDefaults_builderAfter hearlier, Source.builderAfter_concat]
  exact Builder.getElem?_edges_apply hstrict Source.simple_builderAfter he hr

/-- A strict graph with a default between two statements on its edge. -/
def repainted : String :=
  "strict graph \x7b a -- b [color=blue]; edge [color=red]; b -- a [width=2]; \x7d"

def repaintedStatements : List Statement :=
  [.edges ["a", "b"] (Dict.ofList [("color", "blue")]),
    .defaults .edge (Dict.ofList [("color", "red")])]

/-- The default takes the place of the color that the edge was given. -/
theorem edges_restated_repainted :
    (Source.ofString repainted).header? = some ⟨.undirected, true, "G"⟩ ∧
      (Source.ofString repainted).accepted =
        repaintedStatements ++ .edges ["b", "a"] (Dict.ofList [("width", "2")]) :: [] ∧
      ((Source.ofString repainted).builderAfter repaintedStatements).graph.edges[0]? =
        some ⟨"a", "b", Dict.ofList [("color", "blue")]⟩ ∧
      (∃ p ∈ ["b", "a"].zip ["b", "a"].tail,
        Graph.Kind.undirected.SameEnds (Edge.ends ⟨"a", "b", Dict.ofList [("color", "blue")]⟩) p) ∧
      ((Source.ofString repainted).builderAfter (repaintedStatements ++
          [.edges ["b", "a"] (Dict.ofList [("width", "2")])])).graph.edges[0]? =
        some ⟨"a", "b", Dict.ofList [("color", "red"), ("width", "2")]⟩ := by
  have hh : (Source.ofString repainted).header? = some ⟨.undirected, true, "G"⟩ := by
    decide +kernel
  have hss : (Source.ofString repainted).accepted =
      repaintedStatements ++ .edges ["b", "a"] (Dict.ofList [("width", "2")]) :: [] := by
    decide +kernel
  have he : ((Source.ofString repainted).builderAfter repaintedStatements).graph.edges[0]? =
      some ⟨"a", "b", Dict.ofList [("color", "blue")]⟩ := by
    decide +kernel
  have hr : ∃ p ∈ ["b", "a"].zip ["b", "a"].tail,
      Graph.Kind.undirected.SameEnds (Edge.ends ⟨"a", "b", Dict.ofList [("color", "blue")]⟩) p := by
    decide
  obtain ⟨merged, hm, hv, -⟩ := edges_restated hh rfl hss he hr
  have hmerged : merged = Dict.ofList [("color", "red"), ("width", "2")] :=
    hv.trans (by decide +kernel)
  exact ⟨hh, hss, he, hr, hmerged ▸ hm⟩

/-- A statement on an edge does more than to merge its list into the attributes of the edge. -/
theorem not_edges_restated_by_list : ¬ ∀ (s : String) (header : Header)
    (earlier later : List Statement) (ids : List String) (attributes : Attributes) (i : Nat)
    (e : Edge), (Source.ofString s).header? = some header → header.strict = true →
    (Source.ofString s).accepted = earlier ++ .edges ids attributes :: later →
    ((Source.ofString s).builderAfter earlier).graph.edges[i]? = some e →
    (∃ p ∈ ids.zip ids.tail, header.kind.SameEnds e.ends p) →
    ∃ merged : Attributes,
      ((Source.ofString s).builderAfter (earlier ++ [.edges ids attributes])).graph.edges[i]? =
        some { e with attributes := merged } ∧
      ∀ k, merged.get? k = (e.attributes.merge attributes).get? k := by
  intro h
  have hedge : ((Source.ofString repainted).builderAfter (repaintedStatements ++
      [.edges ["b", "a"] (Dict.ofList [("width", "2")])])).graph.edges[0]? =
        some ⟨"a", "b", Dict.ofList [("color", "red"), ("width", "2")]⟩ := by
    decide +kernel
  obtain ⟨merged, hm, hv⟩ := h repainted ⟨.undirected, true, "G"⟩ repaintedStatements []
    ["b", "a"] (Dict.ofList [("width", "2")]) 0 ⟨"a", "b", Dict.ofList [("color", "blue")]⟩
    (by decide +kernel) rfl (by decide +kernel) (by decide +kernel) (by decide)
  rw [hedge, Option.some.injEq, Edge.mk.injEq] at hm
  have hcolor := hv "color"
  rw [← hm.2.2] at hcolor
  exact absurd hcolor (by decide +kernel)

end DotDrawing
