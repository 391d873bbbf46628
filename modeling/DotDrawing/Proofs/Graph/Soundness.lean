import DotDrawing.Proofs.Graph.Operation

/-!
What every sequence of operations keeps.

A graph that is made by operations has each node under its own id, joins only nodes that it has,
and, if it is strict, has no two edges between the same ends. An operation changes neither the
header of a graph nor the order of what is there (`Continues`), and it leaves alone what it does not
name (`Spares`).
-/

namespace DotDrawing.Graph

inductive Operation
  | ensureNode (id : String) (defaults : Attributes)
  | upsertNode (id : String) (defaults attributes : Attributes)
  | addEdge (source target : String) (nodeDefaults attributes : Attributes)
  | mergeAttributes (incoming : Attributes)

namespace Operation

def apply (g : Graph) : Operation → Graph
  | ensureNode id defaults => (g.ensureNode id defaults).1
  | upsertNode id defaults attributes => g.upsertNode id defaults attributes
  | addEdge source target nodeDefaults attributes =>
    (g.addEdge source target nodeDefaults attributes).1
  | mergeAttributes incoming => g.mergeAttributes incoming

/-- The operation merges attributes into those of the node. -/
def Describes : Operation → String → Prop
  | upsertNode id _ _, x => x = id
  | _, _ => False

/-- The operation merges attributes into those of an edge between the ends. -/
def Restates (g : Graph) : Operation → String × String → Prop
  | addEdge source target _ _, p => g.strict ∧ g.kind.SameEnds p (source, target)
  | _, _ => False

/-- All other nodes and edges have the attributes that they had, and edges their places. -/
structure Spares (op : Operation) (g h : Graph) : Prop where
  node : ∀ n ∈ g.nodes, ¬ op.Describes n.id → h.node? n.id = some n
  edge : ∀ (i : Nat) (e : Edge), g.edges[i]? = some e → ¬ op.Restates g e.ends →
    h.edges[i]? = some e

end Operation

/-- The graph after a sequence of operations. -/
def run (g : Graph) (ops : List Operation) : Graph := ops.foldl Operation.apply g

/-- Every edge joins nodes of the graph. -/
def Joined (g : Graph) : Prop := ∀ e ∈ g.edges, e.source ∈ g.nodeIds ∧ e.target ∈ g.nodeIds

instance (g : Graph) : Decidable g.Joined := inferInstanceAs (Decidable (∀ _ ∈ _, _))

/-- No two edges of a strict graph have the same ends. -/
def Simple (g : Graph) : Prop :=
  g.strict → (g.edges.map Edge.ends).Pairwise fun p q => ¬ g.kind.SameEnds p q

instance (g : Graph) : Decidable g.Simple := inferInstanceAs (Decidable (_ → _))

/-- `h` has the header of `g`, and its nodes and edges begin with those of `g`. -/
structure Continues (g h : Graph) : Prop where
  kind : h.kind = g.kind
  strict : h.strict = g.strict
  id : h.id = g.id
  nodeIds : g.nodeIds <+: h.nodeIds
  ends : g.edges.map Edge.ends <+: h.edges.map Edge.ends

variable {g : Graph} {id source target : String} {defaults attributes : Attributes}

/-! ### What one operation keeps -/

lemma nodeIds_prefix_ensureNode : g.nodeIds <+: (g.ensureNode id defaults).1.nodeIds := by
  rw [nodeIds_ensureNode]
  split
  · exact List.prefix_rfl
  · exact List.prefix_append ..

lemma nodeIds_prefix_upsertNode :
    g.nodeIds <+: (g.upsertNode id defaults attributes).nodeIds := by
  rw [nodeIds_upsertNode]
  split
  · exact List.prefix_rfl
  · exact List.prefix_append ..

lemma nodeIds_prefix_addEdge :
    g.nodeIds <+: (g.addEdge source target defaults attributes).1.nodeIds := by
  rw [nodeIds_addEdge]
  exact nodeIds_prefix_ensureNode.trans nodeIds_prefix_ensureNode

lemma ends_addEdge (g : Graph) (source target : String) (defaults attributes : Attributes) :
    (g.addEdge source target defaults attributes).1.edges.map Edge.ends =
    g.edges.map Edge.ends ++
      if (g.addEdge source target defaults attributes).2 then [(source, target)] else [] := by
  rw [addEdge_eq]
  rcases joinedEdges_cases g source target attributes with ⟨-, h⟩ | ⟨-, _, _, _, hes, -, -, h⟩
  · simp [h, Edge.ends]
  · simp [h, hes, Edge.ends]

lemma continues_addEdge : g.Continues (g.addEdge source target defaults attributes).1 where
  kind := by rw [addEdge_eq]; simp [withEnds]
  strict := by rw [addEdge_eq]; simp [withEnds]
  id := by rw [addEdge_eq]; simp [withEnds]
  nodeIds := nodeIds_prefix_addEdge
  ends := ends_addEdge .. ▸ List.prefix_append ..

lemma continues_apply (g : Graph) (op : Operation) : g.Continues (op.apply g) := by
  cases op with
  | ensureNode id defaults =>
    exact ⟨kind_ensureNode, strict_ensureNode, id_ensureNode, nodeIds_prefix_ensureNode,
      by simp [Operation.apply]⟩
  | upsertNode id defaults attributes =>
    exact ⟨rfl, rfl, rfl, nodeIds_prefix_upsertNode, List.prefix_rfl⟩
  | addEdge source target defaults attributes => exact continues_addEdge
  | mergeAttributes incoming => exact ⟨rfl, rfl, rfl, List.prefix_rfl, List.prefix_rfl⟩

lemma getElem?_joinedEdges {i : Nat} {e : Edge} (he : g.edges[i]? = some e)
    (hr : ¬ (g.strict ∧ g.kind.SameEnds e.ends (source, target))) :
    (g.joinedEdges source target attributes).1[i]? = some e := by
  rcases joinedEdges_cases g source target attributes with
    ⟨-, h⟩ | ⟨hs, before, f, after, hes, hf, -, h⟩
  · rw [h, List.getElem?_append_left (List.getElem?_eq_some_iff.1 he).1, he]
  · -- the edge at the index is not the one that took the call in
    have hi : i ≠ before.length := by
      rintro rfl
      have : e = f := by simpa [hes] using he.symm
      exact hr ⟨hs, this ▸ hf⟩
    rw [hes] at he
    rw [h]
    rcases Nat.lt_or_gt_of_ne hi with hlt | hgt
    · rwa [List.getElem?_append_left hlt] at he ⊢
    · obtain ⟨j, hj⟩ := Nat.exists_eq_add_of_lt hgt
      have hj' : i - before.length = j + 1 := by omega
      rw [List.getElem?_append_right (by omega), hj', List.getElem?_cons_succ] at he ⊢
      exact he

lemma spares_apply (g : Graph) (op : Operation) : op.Spares g (op.apply g) := by
  have known {n : Node} (hn : n ∈ g.nodes) : n.id ∈ g.nodeIds :=
    map_id_nodes ▸ List.mem_map_of_mem hn
  cases op with
  | ensureNode id defaults =>
    refine ⟨fun n hn _ => ?_, fun i e he _ => by simpa [Operation.apply] using he⟩
    exact (node?_ensureNode_of_mem _ _ (known hn)).trans (node?_eq_some_of_mem hn)
  | upsertNode id defaults attributes =>
    refine ⟨fun n hn hd => ?_, fun i e he _ => he⟩
    exact (node?_upsertNode_of_ne hd).trans (node?_eq_some_of_mem hn)
  | addEdge source target defaults attributes =>
    refine ⟨fun n hn _ => ?_, fun i e he hr => ?_⟩
    · rw [Operation.apply, addEdge_eq]
      have h1 : n.id ∈ (g.ensureNode source defaults).1.nodeIds :=
        mem_nodeIds_ensureNode.2 (Or.inl (known hn))
      have h2 := node?_ensureNode_of_mem target defaults h1
      exact (h2.trans (node?_ensureNode_of_mem _ _ (known hn))).trans (node?_eq_some_of_mem hn)
    · rw [Operation.apply, edges_addEdge]
      exact getElem?_joinedEdges he hr
  | mergeAttributes incoming =>
    exact ⟨fun n hn _ => node?_eq_some_of_mem hn, fun i e he _ => he⟩

lemma length_edges_addEdge : (g.addEdge source target defaults attributes).1.edges.length =
    g.edges.length + (g.addEdge source target defaults attributes).2.toNat := by
  have h := congrArg List.length (ends_addEdge g source target defaults attributes)
  simp only [List.length_map, List.length_append] at h
  rw [h]
  cases (g.addEdge source target defaults attributes).2 <;> rfl

/-! ### What holds of every graph that is made by operations -/

lemma joined_apply (h : g.Joined) (op : Operation) : (op.apply g).Joined := by
  have old {e : Edge} (he : e ∈ g.edges) :
      e.source ∈ (op.apply g).nodeIds ∧ e.target ∈ (op.apply g).nodeIds :=
    (h e he).imp ((continues_apply g op).nodeIds.subset ·) ((continues_apply g op).nodeIds.subset ·)
  cases op with
  | ensureNode id defaults => exact fun e he => old (by simpa [Operation.apply] using he)
  | upsertNode id defaults attributes => exact fun e he => old he
  | addEdge source target defaults attributes =>
    intro e he
    -- the ends of the edge are those of an old edge or those of the call
    have hp : e.ends ∈ g.edges.map Edge.ends ∨ e.ends = (source, target) := by
      have := List.mem_map_of_mem (f := Edge.ends) he
      rw [Operation.apply, ends_addEdge, List.mem_append] at this
      refine this.imp_right fun hm => ?_
      split at hm <;> simp_all
    rcases hp with hp | hp
    · obtain ⟨f, hf, hfe⟩ := List.mem_map.1 hp
      simp only [Edge.ends, Prod.mk.injEq] at hfe
      have := old hf
      rwa [hfe.1, hfe.2] at this
    · simp only [Edge.ends, Prod.mk.injEq] at hp
      rw [hp.1, hp.2, Operation.apply, nodeIds_addEdge]
      simp [mem_nodeIds_withEnds]
  | mergeAttributes incoming => exact h

lemma simple_apply (h : g.Simple) (op : Operation) : (op.apply g).Simple := by
  have hc := continues_apply g op
  intro hs
  rw [hc.strict] at hs
  rw [hc.kind]
  cases op with
  | ensureNode id defaults => simpa [Operation.apply] using h hs
  | upsertNode id defaults attributes => exact h hs
  | addEdge source target defaults attributes =>
    rw [Operation.apply, edges_addEdge]
    rcases joinedEdges_cases g source target attributes with
      ⟨hn, hj⟩ | ⟨-, before, e, after, hes, -, -, hj⟩
    · rw [hj, List.map_append, List.pairwise_append]
      refine ⟨h hs, by simp, fun p hp q hq => ?_⟩
      obtain ⟨e, he, rfl⟩ := List.mem_map.1 hp
      obtain rfl : q = (source, target) := by simpa [Edge.ends] using hq
      exact hn hs e he
    · have := h hs
      rw [hes] at this
      simpa [hj, Edge.ends] using this
  | mergeAttributes incoming => exact h hs

lemma joined_run (h : g.Joined) (ops : List Operation) : (g.run ops).Joined := by
  induction ops generalizing g with
  | nil => exact h
  | cons op ops ih => exact ih (joined_apply h op)

lemma simple_run (h : g.Simple) (ops : List Operation) : (g.run ops).Simple := by
  induction ops generalizing g with
  | nil => exact h
  | cons op ops ih => exact ih (simple_apply h op)

/-- **Soundness of graphs**: after any operations on an empty graph every node stands under its
own id, all edges join nodes of the graph, and a strict graph has no edge twice. Each operation
continues the graph and spares what it does not name, and the answers say what is new. -/
theorem sound_run_empty (kind : Kind) (strict : Bool) (id : String) (ops : List Operation) :
    ((((empty kind strict id).run ops).nodes.map Node.id).Nodup ∧
      (∀ n ∈ ((empty kind strict id).run ops).nodes,
        ((empty kind strict id).run ops).node? n.id = some n) ∧
      ((empty kind strict id).run ops).Joined ∧ ((empty kind strict id).run ops).Simple) ∧
    (∀ (g : Graph) (op : Operation), g.Continues (op.apply g) ∧ op.Spares g (op.apply g)) ∧
    (∀ (g : Graph) (id : String) (defaults : Attributes),
      (g.ensureNode id defaults).2 = true ↔ id ∉ g.nodeIds) ∧
    ∀ (g : Graph) (source target : String) (defaults attributes : Attributes),
      (g.addEdge source target defaults attributes).1.edges.length =
        g.edges.length + (g.addEdge source target defaults attributes).2.toNat := by
  refine ⟨⟨?_, fun n hn => node?_eq_some_of_mem hn, ?_, ?_⟩, ?_, ?_, ?_⟩
  · rw [map_id_nodes]
    exact Dict.nodup_keys _
  · exact joined_run (fun e he => by simp [empty] at he) ops
  · exact simple_run (fun _ => by simp [empty]) ops
  · exact fun g op => ⟨continues_apply g op, spares_apply g op⟩
  · exact fun g id defaults => isNew_ensureNode
  · exact fun g source target defaults attributes => length_edges_addEdge

end DotDrawing.Graph
