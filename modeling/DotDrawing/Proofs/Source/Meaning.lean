import DotDrawing.Proofs.Source.Statements
import DotDrawing.Proofs.Graph.Operation
import Mathlib.Data.List.Induction

/-!
What a source means.

The graph of a source is given by the history of its accepted statements. A node has the defaults
that were set before its first mention, under the lists of all statements on it; an edge has the
defaults that were set before its statement, under the list of its statement. Main statement:
`parse_eq_meaning`.
-/

namespace DotDrawing

/-- All of the lists in one, later lists over earlier ones. -/
def mergeAll (lists : List Attributes) : Attributes := lists.foldl Dict.merge ∅

lemma mergeAll_filterMap_concat {α : Type} (f : α → Option Attributes) (xs : List α) (x : α) :
    mergeAll ((xs ++ [x]).filterMap f) =
      (f x).elim (mergeAll (xs.filterMap f)) (mergeAll (xs.filterMap f)).merge := by
  cases h : f x <;> simp [mergeAll, h]

namespace Statement

/-- The nodes that the statement names. -/
def mentions : Statement → List String
  | edges ids _ => ids
  | node id _ => [id]
  | _ => []

def nodeDefaults? : Statement → Option Attributes
  | defaults .node attributes => some attributes
  | _ => none

def edgeDefaults? : Statement → Option Attributes
  | defaults .edge attributes => some attributes
  | _ => none

/-- What the statement sets for the graph as a whole. -/
def graphList? : Statement → Option Attributes
  | defaults .graph attributes => some attributes
  | assignment key value => some (Dict.ofList [(key, value)])
  | _ => none

/-- The list of a node statement on the node. -/
def listOn? (id : String) : Statement → Option Attributes
  | node x attributes => if x = id then some attributes else none
  | _ => none

/-! ### The history of a sequence of statements -/

/-- The nodes in the order in which they are first named. -/
def firstMentions (ss : List Statement) : List String := (ss.flatMap mentions).eraseDups

/-- The attributes of a node: the node defaults set before the node was first named, and over
these the lists of all statements on it. -/
def attributesOf (ss : List Statement) (id : String) : Attributes :=
  let before := ss.takeWhile fun s => id ∉ s.mentions
  (ss.filterMap (listOn? id)).foldl Dict.merge (mergeAll (before.filterMap nodeDefaults?))

/-- The edges along a chain of nodes. -/
def chainEdges (ids : List String) (attributes : Attributes) : List Edge :=
  (ids.zip ids.tail).map fun p => ⟨p.1, p.2, attributes⟩

/-- The edges of one statement, when `before` has been said. -/
def edgesAfter (before : List Statement) : Statement → List Edge
  | edges ids attributes =>
    chainEdges ids ((mergeAll (before.filterMap edgeDefaults?)).merge attributes)
  | _ => []

/-- One edge for each step of each chain, in order. -/
def declaredEdges (ss : List Statement) : List Edge :=
  ss.zipIdx.flatMap fun p => edgesAfter (ss.take p.2) p.1

variable {ss : List Statement} {s : Statement} {id : String}

lemma mem_firstMentions : id ∈ firstMentions ss ↔ ∃ s ∈ ss, id ∈ s.mentions := by
  simp [firstMentions, List.mem_eraseDups]

lemma firstMentions_concat (ss : List Statement) (s : Statement) : firstMentions (ss ++ [s]) =
    firstMentions ss ++ (s.mentions.removeAll (firstMentions ss)).eraseDups := by
  have h : s.mentions.removeAll (firstMentions ss) =
      s.mentions.removeAll (ss.flatMap mentions) := by
    simp [List.removeAll, firstMentions, List.mem_eraseDups]
  rw [h]
  simp [firstMentions, List.eraseDups_append]

lemma attributesOf_concat_of_mem (h : id ∈ firstMentions ss) :
    attributesOf (ss ++ [s]) id = (s.listOn? id).toList.foldl Dict.merge (attributesOf ss id) := by
  obtain ⟨t, ht, hm⟩ := mem_firstMentions.1 h
  -- what stands before the first mention is the same with one more statement at the end
  have hd : (ss ++ [s]).takeWhile (fun s => decide (id ∉ s.mentions)) =
      ss.takeWhile fun s => decide (id ∉ s.mentions) := by
    rw [List.takeWhile_append, if_neg]
    intro hlen
    have hall := (List.takeWhile_prefix fun s : Statement => decide (id ∉ s.mentions)).eq_of_length
      hlen
    have := List.takeWhile_eq_self_iff.1 hall t ht
    simp [hm] at this
  simp only [attributesOf, hd, List.filterMap_append, List.foldl_append]
  cases hs : s.listOn? id <;> simp [hs]

lemma attributesOf_concat_of_notMem (h : id ∉ firstMentions ss) (hs : id ∈ s.mentions) :
    attributesOf (ss ++ [s]) id =
      (s.listOn? id).toList.foldl Dict.merge (mergeAll (ss.filterMap nodeDefaults?)) := by
  have hn : ∀ t ∈ ss, id ∉ t.mentions := fun t ht hm => h (mem_firstMentions.2 ⟨t, ht, hm⟩)
  have hd : (ss ++ [s]).takeWhile (fun s => decide (id ∉ s.mentions)) = ss := by
    rw [List.takeWhile_append_of_pos (by simpa using hn)]
    simp [hs]
  have hl : ss.filterMap (listOn? id) = [] := by
    rw [List.filterMap_eq_nil_iff]
    intro t ht
    have := hn t ht
    cases t <;> simp_all [listOn?, mentions]
    grind
  simp only [attributesOf, hd, List.filterMap_append, hl, List.nil_append]
  cases hs : s.listOn? id <;> simp [hs]

lemma declaredEdges_concat (ss : List Statement) (s : Statement) :
    declaredEdges (ss ++ [s]) = declaredEdges ss ++ edgesAfter ss s := by
  have h : ss.zipIdx.flatMap (fun p => edgesAfter ((ss ++ [s]).take p.2) p.1) =
      declaredEdges ss := by
    refine List.flatMap_congr fun p hp => ?_
    have := List.snd_lt_of_mem_zipIdx hp
    rw [List.take_append_of_le_length (by omega)]
  unfold declaredEdges at h ⊢
  rw [List.zipIdx_append, List.flatMap_append, h]
  simp

end Statement

/-! ### What one statement does to the graph -/

namespace Builder

open Statement

variable {g : Graph} {defaults attributes : Attributes} {ids : List String}

lemma nodeAttributes_joinChain (h : 2 ≤ ids.length) :
    (joinChain g defaults attributes ids).nodeAttributes =
      ids.foldl (fun d id => d.insertNew id defaults) g.nodeAttributes := by
  match ids with
  | a :: b :: ids =>
    clear h
    induction ids generalizing g a b with
    | nil => simp [joinChain, Graph.nodeAttributes_addEdge]
    | cons c ids ih =>
      rw [joinChain, ih b c, Graph.nodeAttributes_addEdge]
      simp [Dict.insertNew_insertNew_self]

lemma edges_joinChain (h : g.strict = false) (ids : List String) :
    (joinChain g defaults attributes ids).edges = g.edges ++ chainEdges ids attributes := by
  fun_induction joinChain g defaults attributes ids with
  | case1 g a b ids ih =>
    have hc : (g.addEdge a b defaults attributes).1.edges = g.edges ++ [⟨a, b, attributes⟩] := by
      rw [Graph.edges_addEdge]
      simp [Graph.joinedEdges, h]
    rw [ih (by rw [Graph.addEdge_eq]; simp [Graph.withEnds, h]), hc]
    simp [chainEdges]
  | case2 ids g hids =>
    rcases ids with _ | ⟨a, _ | ⟨b, ids⟩⟩
    · simp [chainEdges]
    · simp [chainEdges]
    · exact absurd rfl (hids a b ids)

lemma joinChain_eq (g : Graph) (defaults attributes : Attributes) (ids : List String) :
    ∃ nodes edges, joinChain g defaults attributes ids =
      { g with nodeAttributes := nodes, edges := edges } := by
  fun_induction joinChain g defaults attributes ids with
  | case1 g a b ids ih =>
    obtain ⟨nodes, edges, h⟩ := ih
    obtain ⟨_, hends⟩ := Graph.withEnds_eq g a b defaults
    exact ⟨nodes, edges, by rw [h, Graph.addEdge_eq, hends]⟩
  | case2 ids g => exact ⟨g.nodeAttributes, g.edges, rfl⟩

/-! ### The graph behind a sequence of statements -/

/-- The builder stands where the statements lead from an empty graph. -/
structure Reflects (b : Builder) (ss : List Statement) : Prop where
  nodeDefaults : b.nodeDefaults = mergeAll (ss.filterMap nodeDefaults?)
  edgeDefaults : b.edgeDefaults = mergeAll (ss.filterMap edgeDefaults?)
  attributes : b.graph.attributes = mergeAll (ss.filterMap graphList?)
  nodeIds : b.graph.nodeIds = firstMentions ss
  node : ∀ id ∈ firstMentions ss, b.graph.nodeAttributes.get? id = some (attributesOf ss id)
  edges : b.graph.strict = false → b.graph.edges = declaredEdges ss

lemma reflects_start (kind : Graph.Kind) (strict : Bool) (id : String) :
    (start (Graph.empty kind strict id)).Reflects [] := by
  constructor <;> simp [start, Graph.empty, mergeAll, firstMentions, declaredEdges, Graph.nodeIds]

variable {b : Builder} {ss : List Statement}

lemma Reflects.nodes_of_mentions_nil (h : b.Reflects ss) {s : Statement} (hs : s.mentions = []) :
    b.graph.nodeIds = firstMentions (ss ++ [s]) ∧
    (∀ id ∈ firstMentions (ss ++ [s]),
      b.graph.nodeAttributes.get? id = some (attributesOf (ss ++ [s]) id)) ∧
    (b.graph.strict = false → b.graph.edges = declaredEdges (ss ++ [s])) := by
  have hl : ∀ id, s.listOn? id = none := by
    intro id; cases s <;> simp_all [mentions, listOn?]
  have he : edgesAfter ss s = [] := by
    cases s <;> simp_all [mentions, edgesAfter, chainEdges]
  have hf : firstMentions (ss ++ [s]) = firstMentions ss := by
    simp [firstMentions_concat, hs]
  rw [hf]
  refine ⟨h.nodeIds, fun id hid => ?_, fun hst => ?_⟩
  · rw [attributesOf_concat_of_mem hid, hl]
    exact h.node id hid
  · rw [declaredEdges_concat, he, List.append_nil]
    exact h.edges hst

lemma Reflects.get?_eq_none (h : b.Reflects ss) {id : String} (hid : id ∉ firstMentions ss) :
    b.graph.nodeAttributes.get? id = none := by
  rw [← h.nodeIds] at hid
  exact Dict.get?_eq_none_iff.2 hid

lemma Reflects.edges_step (h : b.Reflects ss) {ids : List String} (attributes : Attributes)
    (hids : 2 ≤ ids.length) : (b.apply (.edges ids attributes)).Reflects
      (ss ++ [.edges ids attributes]) where
  nodeDefaults := by rw [mergeAll_filterMap_concat]; exact h.nodeDefaults
  edgeDefaults := by rw [mergeAll_filterMap_concat]; exact h.edgeDefaults
  attributes := by
    obtain ⟨nodes, edges, hchain⟩ :=
      joinChain_eq b.graph b.nodeDefaults (b.edgeDefaults.merge attributes) ids
    rw [mergeAll_filterMap_concat, apply, hchain]
    exact h.attributes
  nodeIds := by
    rw [firstMentions_concat, ← h.nodeIds]
    simp only [apply, Graph.nodeIds, nodeAttributes_joinChain hids, Dict.keys_foldl_insertNew]
    rfl
  node id hid := by
    simp only [apply, nodeAttributes_joinChain hids, Dict.get?_foldl_insertNew]
    by_cases hk : id ∈ firstMentions ss
    · rw [attributesOf_concat_of_mem hk, h.node id hk]
      simp [listOn?]
    · -- a node that this chain is the first to name
      have hm : id ∈ ids := by
        simpa [firstMentions_concat, List.mem_eraseDups, hk, mentions, List.removeAll] using hid
      rw [attributesOf_concat_of_notMem hk (by simpa [mentions] using hm), h.get?_eq_none hk]
      simp [hm, listOn?, h.nodeDefaults]
  edges hst := by
    have hg : b.graph.strict = false := by
      obtain ⟨nodes, edges, hchain⟩ :=
        joinChain_eq b.graph b.nodeDefaults (b.edgeDefaults.merge attributes) ids
      rwa [apply, hchain] at hst
    rw [declaredEdges_concat, ← h.edges hg]
    simp [apply, edges_joinChain hg, edgesAfter, h.edgeDefaults]

lemma Reflects.node_step (h : b.Reflects ss) (id : String) (attributes : Attributes) :
    (b.apply (.node id attributes)).Reflects (ss ++ [.node id attributes]) where
  nodeDefaults := by rw [mergeAll_filterMap_concat]; exact h.nodeDefaults
  edgeDefaults := by rw [mergeAll_filterMap_concat]; exact h.edgeDefaults
  attributes := by rw [mergeAll_filterMap_concat]; exact h.attributes
  nodeIds := by
    rw [firstMentions_concat, ← h.nodeIds, apply, Graph.nodeIds_upsertNode]
    split <;> simp [mentions, List.cons_removeAll, List.eraseDups_cons, *]
  node x hx := by
    simp only [apply, Graph.upsertNode, Dict.get?_insert]
    split
    · next he =>
      subst he
      by_cases hk : x ∈ firstMentions ss
      · rw [attributesOf_concat_of_mem hk, h.node x hk]
        simp [listOn?]
      · rw [attributesOf_concat_of_notMem hk (by simp [mentions]), h.get?_eq_none hk]
        simp [listOn?, h.nodeDefaults]
    · next hne =>
      have hk : x ∈ firstMentions ss := by
        simpa [firstMentions_concat, List.mem_eraseDups, mentions, List.removeAll, hne] using hx
      have hne' : id ≠ x := fun he => hne he.symm
      rw [attributesOf_concat_of_mem hk, h.node x hk]
      simp [listOn?, hne']
  edges hst := by
    rw [declaredEdges_concat, ← h.edges hst]
    simp [apply, Graph.upsertNode, edgesAfter]

/-- One more statement leads where the longer history says. -/
lemma Reflects.step (h : b.Reflects ss) {s : Statement}
    (hs : ∀ ids attributes, s = .edges ids attributes → 2 ≤ ids.length) :
    (b.apply s).Reflects (ss ++ [s]) := by
  cases s with
  | edges ids attributes => exact h.edges_step attributes (hs _ _ rfl)
  | node id attributes => exact h.node_step id attributes
  | defaults target attributes =>
    obtain ⟨h1, h2, h3⟩ := h.nodes_of_mentions_nil (s := .defaults target attributes) rfl
    cases target
    all_goals
      refine ⟨?_, ?_, ?_, h1, h2, h3⟩
      all_goals
        rw [mergeAll_filterMap_concat]
        simp [apply, nodeDefaults?, edgeDefaults?, graphList?, Graph.mergeAttributes,
          h.nodeDefaults, h.edgeDefaults, h.attributes]
  | assignment key value =>
    obtain ⟨h1, h2, h3⟩ := h.nodes_of_mentions_nil (s := .assignment key value) rfl
    refine ⟨?_, ?_, ?_, h1, h2, h3⟩
    all_goals
      rw [mergeAll_filterMap_concat]
      simp [apply, nodeDefaults?, edgeDefaults?, graphList?, Graph.mergeAttributes,
        h.nodeDefaults, h.edgeDefaults, h.attributes]

lemma reflects_applyAll (kind : Graph.Kind) (strict : Bool) (id : String) (ss : List Statement)
    (hs : ∀ ids attributes, .edges ids attributes ∈ ss → 2 ≤ ids.length) :
    ((start (Graph.empty kind strict id)).applyAll ss).Reflects ss := by
  induction ss using List.reverseRecOn with
  | nil => exact reflects_start kind strict id
  | append_singleton ss s ih =>
    have := ih fun ids attributes hm => hs ids attributes (by simp [hm])
    rw [applyAll, List.foldl_append]
    exact this.step fun ids attributes he => hs ids attributes (by simp [he])

lemma Reflects.nodes (h : b.Reflects ss) :
    b.graph.nodes = (firstMentions ss).map fun id => ⟨id, attributesOf ss id⟩ := by
  have hk : ∀ id ∈ b.graph.nodeAttributes.keys,
      b.graph.nodeAttributes.get? id = some (attributesOf ss id) :=
    fun id hid => h.node id (h.nodeIds ▸ hid)
  rw [Graph.nodes, Dict.entries_eq_map_keys hk, ← h.nodeIds, List.map_map]
  rfl

end Builder

lemma Source.start_eq_empty (s : Source) :
    ∃ kind strict id, s.start = Graph.empty kind strict id := by
  unfold Source.start
  cases s.header? with
  | none => exact ⟨_, _, _, rfl⟩
  | some header => exact ⟨_, _, _, rfl⟩

/-- **The meaning of a source**: its nodes are those its statements name, in order of first mention,
each with the defaults set before that mention under all lists given for it; its attributes are all
that is said of the graph, in order; and unless it is strict, its edges are the steps of its chains,
each with the defaults set before its statement under the list of the statement. The statements are
those that are accepted behind the header, or in the whole source if it has none. -/
theorem parse_eq_meaning (s : String) :
    ∃ kind body ss,
      kind = ((Header.find? (Token.ofString s)).map fun found => found.1.kind).getD .directed ∧
      body = ((Header.find? (Token.ofString s)).map Prod.snd).getD (Token.ofString s) ∧
      ss = ((body.splitOn .newline).filter fun line => !Statement.isSkipped line).flatMap
        (fun line => (Statement.cut line).statements.filterMap fun run =>
          (Statement.read kind run).statement?) ∧
      (Graph.parse s).nodeIds = Statement.firstMentions ss ∧
      (Graph.parse s).nodes =
        (Statement.firstMentions ss).map (fun id => ⟨id, Statement.attributesOf ss id⟩) ∧
      (Graph.parse s).attributes = mergeAll (ss.filterMap Statement.graphList?) ∧
      ((Graph.parse s).strict = false → (Graph.parse s).edges = Statement.declaredEdges ss) := by
  obtain ⟨kind, strict, id, hstart⟩ := (Source.ofString s).start_eq_empty
  have h : ((Builder.start (Graph.empty kind strict id)).applyAll
      (Source.ofString s).accepted).Reflects (Source.ofString s).accepted :=
    Builder.reflects_applyAll kind strict id _ fun ids attributes hm =>
      Source.two_le_length_of_mem_accepted hm
  have hg : Graph.parse s = ((Builder.start (Graph.empty kind strict id)).applyAll
      (Source.ofString s).accepted).graph := by
    rw [← hstart, Graph.parse, Source.graph, Source.statements_ofString]
  refine ⟨_, _, _, rfl, rfl, rfl, ?_⟩
  rw [← Source.kind_start_ofString, ← Source.body_ofString, ← Source.accepted, hg]
  exact ⟨h.nodeIds, h.nodes, h.attributes, h.edges⟩

/-- Two chains with defaults between them. -/
def chains : String :=
  "a -> b; edge [w=1, len=3]; node [shape=box]; b -> c -> a [w=2; label=x];"

/-- Defaults set between two chains reach the edges of the second one and the new node there. -/
theorem parse_eq_meaning_chains :
    (Graph.parse chains).strict = false ∧
      (Graph.parse chains).nodes =
        [⟨"a", ∅⟩, ⟨"b", ∅⟩, ⟨"c", Dict.ofList [("shape", "box")]⟩] ∧
      (Graph.parse chains).edges = [⟨"a", "b", ∅⟩,
        ⟨"b", "c", Dict.ofList [("w", "2"), ("len", "3"), ("label", "x")]⟩,
        ⟨"c", "a", Dict.ofList [("w", "2"), ("len", "3"), ("label", "x")]⟩] := by
  have hloose : (Graph.parse chains).strict = false := by decide +kernel
  obtain ⟨kind, body, ss, rfl, rfl, rfl, -, hnodes, -, hedges⟩ := parse_eq_meaning chains
  refine ⟨hloose, hnodes.trans ?_, (hedges hloose).trans ?_⟩
  · decide +kernel
  · decide +kernel

end DotDrawing
