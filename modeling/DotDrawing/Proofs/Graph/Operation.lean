import DotDrawing.Graph.Basic
import DotDrawing.Proofs.Dict.Merge

/-!
Operations on graphs, one by one.

Each operation has its answer, what it makes of the nodes, and what it makes of the edges. Nodes
are only ever added at the end. `joinedEdges_cases` says what a call for an edge does to the edges:
it adds one, or it hands its attributes to the first edge between the same ends.
-/

namespace DotDrawing

/-- The ends of an edge in the order in which they were given. -/
def Edge.ends (e : Edge) : String × String := (e.source, e.target)

/-- The same two ends, in the same order if edges have a direction. -/
def Graph.Kind.SameEnds (kind : Graph.Kind) (p q : String × String) : Prop :=
  p = q ∨ kind = .undirected ∧ p = q.swap

instance (kind : Graph.Kind) (p q : String × String) : Decidable (kind.SameEnds p q) :=
  inferInstanceAs (Decidable (_ ∨ _))

lemma Edge.joins_iff {e : Edge} {kind : Graph.Kind} {source target : String} :
    e.joins kind source target ↔ kind.SameEnds e.ends (source, target) := by
  simp [joins, Graph.Kind.SameEnds, ends, and_assoc]

namespace Edge

variable {kind : Graph.Kind} {source target : String} {more : Attributes}

lemma absorb?_eq_none_iff {es : List Edge} :
    absorb? kind source target more es = none ↔
      ∀ e ∈ es, ¬ kind.SameEnds e.ends (source, target) := by
  induction es with
  | nil => simp [absorb?]
  | cons e es ih =>
    simp only [← joins_iff] at ih ⊢
    by_cases h : e.joins kind source target <;> simp [absorb?, h, ih]

/-- The first edge between the ends has taken the attributes, and no other edge is changed. -/
lemma absorb?_eq_some {es fs : List Edge} (h : absorb? kind source target more es = some fs) :
    ∃ before e after, es = before ++ e :: after ∧
      kind.SameEnds e.ends (source, target) ∧
      (∀ f ∈ before, ¬ kind.SameEnds f.ends (source, target)) ∧
      fs = before ++ { e with attributes := e.attributes.merge more } :: after := by
  induction es generalizing fs with
  | nil => simp [absorb?] at h
  | cons e es ih =>
    unfold absorb? at h
    split at h
    · next hj =>
      cases h
      exact ⟨[], e, es, rfl, joins_iff.1 hj, by simp, rfl⟩
    · next hj =>
      obtain ⟨gs, hgs, rfl⟩ := Option.map_eq_some_iff.1 h
      obtain ⟨before, f, after, rfl, hf, hb, rfl⟩ := ih hgs
      refine ⟨e :: before, f, after, rfl, hf, ?_, rfl⟩
      rintro g (_ | ⟨_, hg⟩)
      · exact fun hs => hj (joins_iff.2 hs)
      · exact hb g hg

end Edge

namespace Graph

variable {g : Graph} {id x source target : String} {defaults attributes : Attributes}

lemma hasNode_iff : g.hasNode id ↔ id ∈ g.nodeIds := Dict.contains_iff

lemma map_id_nodes : g.nodes.map Node.id = g.nodeIds := by
  simp [nodes, nodeIds, Dict.keys, Function.comp_def]

lemma node?_eq_some_of_mem {n : Node} (h : n ∈ g.nodes) : g.node? n.id = some n := by
  obtain ⟨e, he, rfl⟩ := List.mem_map.1 h
  simp [node?, Dict.get?_eq_some_iff.2 he]

/-! ### Registering a node -/

lemma ensureNode_known (h : id ∈ g.nodeIds) : g.ensureNode id defaults = (g, false) := by
  simp [ensureNode, hasNode_iff.2 h]

lemma ensureNode_new (h : id ∉ g.nodeIds) : g.ensureNode id defaults =
    ({ g with nodeAttributes := g.nodeAttributes.insert id defaults }, true) := by
  simp [ensureNode, hasNode_iff, h]

lemma isNew_ensureNode : (g.ensureNode id defaults).2 = true ↔ id ∉ g.nodeIds := by
  by_cases h : id ∈ g.nodeIds
  · simp [ensureNode_known h, h]
  · simp [ensureNode_new h, h]

lemma ensureNode_eq (g : Graph) (id : String) (defaults : Attributes) :
    ∃ nodes, (g.ensureNode id defaults).1 = { g with nodeAttributes := nodes } := by
  unfold ensureNode
  split
  · exact ⟨g.nodeAttributes, rfl⟩
  · exact ⟨_, rfl⟩

@[simp] lemma edges_ensureNode : (g.ensureNode id defaults).1.edges = g.edges := by
  obtain ⟨_, h⟩ := ensureNode_eq g id defaults; rw [h]

@[simp] lemma kind_ensureNode : (g.ensureNode id defaults).1.kind = g.kind := by
  obtain ⟨_, h⟩ := ensureNode_eq g id defaults; rw [h]

@[simp] lemma strict_ensureNode : (g.ensureNode id defaults).1.strict = g.strict := by
  obtain ⟨_, h⟩ := ensureNode_eq g id defaults; rw [h]

@[simp] lemma id_ensureNode : (g.ensureNode id defaults).1.id = g.id := by
  obtain ⟨_, h⟩ := ensureNode_eq g id defaults; rw [h]

@[simp] lemma attributes_ensureNode : (g.ensureNode id defaults).1.attributes = g.attributes := by
  obtain ⟨_, h⟩ := ensureNode_eq g id defaults; rw [h]

lemma nodeIds_ensureNode : (g.ensureNode id defaults).1.nodeIds =
    if id ∈ g.nodeIds then g.nodeIds else g.nodeIds ++ [id] := by
  split
  · next h => rw [ensureNode_known h]
  · next h => rw [ensureNode_new h]; exact Dict.keys_insert_of_notMem h

lemma mem_nodeIds_ensureNode :
    x ∈ (g.ensureNode id defaults).1.nodeIds ↔ x ∈ g.nodeIds ∨ x = id := by
  rw [nodeIds_ensureNode]; split <;> grind

lemma node?_ensureNode_of_mem (id : String) (defaults : Attributes) (h : x ∈ g.nodeIds) :
    (g.ensureNode id defaults).1.node? x = g.node? x := by
  by_cases hid : id ∈ g.nodeIds
  · rw [ensureNode_known hid]
  · have hx : x ≠ id := fun he => hid (he ▸ h)
    simp [ensureNode_new hid, node?, Dict.get?_insert, hx]

lemma nodeAttributes_ensureNode (g : Graph) (id : String) (defaults : Attributes) :
    (g.ensureNode id defaults).1.nodeAttributes = g.nodeAttributes.insertNew id defaults := by
  unfold ensureNode Dict.insertNew hasNode
  split <;> rfl

/-! ### Describing a node -/

lemma nodeIds_upsertNode : (g.upsertNode id defaults attributes).nodeIds =
    if id ∈ g.nodeIds then g.nodeIds else g.nodeIds ++ [id] :=
  Dict.keys_insert ..

lemma node?_upsertNode_of_ne (h : x ≠ id) :
    (g.upsertNode id defaults attributes).node? x = g.node? x := by
  simp [upsertNode, node?, Dict.get?_insert, h]

/-! ### Joining two nodes -/

/-- The graph with both ends of an edge registered. -/
def withEnds (g : Graph) (source target : String) (defaults : Attributes) : Graph :=
  ((g.ensureNode source defaults).1.ensureNode target defaults).1

lemma withEnds_eq (g : Graph) (source target : String) (defaults : Attributes) :
    ∃ nodes, g.withEnds source target defaults = { g with nodeAttributes := nodes } := by
  obtain ⟨_, hsource⟩ := ensureNode_eq g source defaults
  obtain ⟨nodes, htarget⟩ := ensureNode_eq (g.ensureNode source defaults).1 target defaults
  exact ⟨nodes, by rw [withEnds, htarget, hsource]⟩

lemma mem_nodeIds_withEnds : x ∈ (g.withEnds source target defaults).nodeIds ↔
    x ∈ g.nodeIds ∨ x = source ∨ x = target := by
  simp [withEnds, mem_nodeIds_ensureNode, or_assoc]

lemma addEdge_eq : g.addEdge source target defaults attributes =
    ({ g.withEnds source target defaults with
        edges := (g.joinedEdges source target attributes).1 },
      (g.joinedEdges source target attributes).2) := by
  simp [addEdge, withEnds, joinedEdges]

lemma nodeIds_addEdge : (g.addEdge source target defaults attributes).1.nodeIds =
    (g.withEnds source target defaults).nodeIds := by
  rw [addEdge_eq]; rfl

lemma nodeAttributes_addEdge (g : Graph) (source target : String)
    (defaults attributes : Attributes) :
    (g.addEdge source target defaults attributes).1.nodeAttributes =
      (g.nodeAttributes.insertNew source defaults).insertNew target defaults := by
  rw [addEdge_eq]
  simp [withEnds, nodeAttributes_ensureNode]

lemma edges_addEdge : (g.addEdge source target defaults attributes).1.edges =
    (g.joinedEdges source target attributes).1 := by
  rw [addEdge_eq]

/-- A call for an edge appends it, or else the graph is strict and the first edge between the same
ends takes the attributes. -/
lemma joinedEdges_cases (g : Graph) (source target : String) (attributes : Attributes) :
    ((g.strict → ∀ e ∈ g.edges, ¬ g.kind.SameEnds e.ends (source, target)) ∧
      g.joinedEdges source target attributes =
        (g.edges ++ [⟨source, target, attributes⟩], true)) ∨
    (g.strict ∧ ∃ before e after, g.edges = before ++ e :: after ∧
      g.kind.SameEnds e.ends (source, target) ∧
      (∀ f ∈ before, ¬ g.kind.SameEnds f.ends (source, target)) ∧
      g.joinedEdges source target attributes =
        (before ++ { e with attributes := e.attributes.merge attributes } :: after, false)) := by
  by_cases hs : g.strict
  · cases h : Edge.absorb? g.kind source target attributes g.edges with
    | none =>
      refine Or.inl ⟨fun _ => Edge.absorb?_eq_none_iff.1 h, ?_⟩
      simp [joinedEdges, hs, h]
    | some fs =>
      obtain ⟨before, e, after, hes, he, hb, rfl⟩ := Edge.absorb?_eq_some h
      refine Or.inr ⟨hs, before, e, after, hes, he, hb, ?_⟩
      simp [joinedEdges, hs, h]
  · exact Or.inl ⟨fun h => absurd h hs, by simp [joinedEdges, hs]⟩

end Graph

end DotDrawing
