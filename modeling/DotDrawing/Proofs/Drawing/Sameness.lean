import DotDrawing.Proofs.Drawing.Appearance
import Mathlib.Data.List.Perm.Subperm

/-!
Graphs that count as the same, and their drawings.

The order of nodes does not count when graphs are compared, yet nodes are placed and listed in this
order. Graphs that are the same are drawn alike when their nodes stand in the same order, and where
each node has a label of its own only then. Main statement: `Config.drawGraph_eq_of_same`.
-/

namespace DotDrawing

/-! ### The same graph -/

lemma Dict.get?_of_sameBy {β : Type} {same : β → β → Bool} {a b : Dict β} (h : a.sameBy same b)
    (k : String) : (a.get? k = none ∧ b.get? k = none) ∨
      ∃ v w, a.get? k = some v ∧ b.get? k = some w ∧ same v w := by
  rw [sameBy, Bool.and_eq_true, beq_iff_eq, List.all_eq_true] at h
  obtain ⟨hsize, hall⟩ := h
  have hfound {x : String} {v : β} (hv : a.get? x = some v) :
      ∃ w, b.get? x = some w ∧ same v w := by
    have hany := hall (x, v) (get?_eq_some_iff.1 hv)
    simpa [Option.any_eq_true] using hany
  cases hv : a.get? k with
  | some v =>
    obtain ⟨w, hw, hvw⟩ := hfound hv
    exact Or.inr ⟨v, w, rfl, hw, hvw⟩
  | none =>
    -- as many keys as in `a`, all of them known to `b`, leave no room for another one in `b`
    have hsub : a.keys ⊆ b.keys := by
      intro x hx
      obtain ⟨v, hv⟩ := Option.isSome_iff_exists.1 (mem_keys_iff.1 hx)
      obtain ⟨w, hw, -⟩ := hfound hv
      exact mem_keys_iff.2 (hw ▸ rfl)
    have hlen : b.keys.length ≤ a.keys.length := by
      rw [keys, keys, List.length_map, List.length_map]
      exact Nat.le_of_eq hsize.symm
    have hperm : a.keys.Perm b.keys :=
      (List.subperm_of_subset a.nodup_keys hsub).perm_of_length_le hlen
    refine Or.inl ⟨rfl, get?_eq_none_iff.2 fun hk => ?_⟩
    exact get?_eq_none_iff.1 hv (hperm.mem_iff.2 hk)

namespace Graph

variable {g h : Graph}

lemma get?_of_sameAttributes {a b : Attributes} (hab : sameAttributes a b) (k : String) :
    a.get? k = b.get? k := by
  rcases Dict.get?_of_sameBy hab k with ⟨ha, hb⟩ | ⟨v, w, ha, hb, hvw⟩
  · rw [ha, hb]
  · rw [ha, hb, beq_iff_eq.1 hvw]

lemma nodes_eq_map_nodeIds (g : Graph) :
    g.nodes = g.nodeIds.map fun id => ⟨id, (g.nodeAttributes.get? id).getD ∅⟩ := by
  have hget : ∀ id ∈ g.nodeAttributes.keys,
      g.nodeAttributes.get? id = some ((g.nodeAttributes.get? id).getD ∅) := by
    intro id hid
    obtain ⟨a, ha⟩ := Option.isSome_iff_exists.1 (Dict.mem_keys_iff.1 hid)
    rw [ha, Option.getD_some]
  rw [nodes, Dict.entries_eq_map_keys hget, List.map_map]
  rfl

/-- What is the same about graphs that count as the same. -/
structure Same (g h : Graph) : Prop where
  kind : g.kind = h.kind
  attributes : ∀ k, g.attributes.get? k = h.attributes.get? k
  mem_nodeIds : ∀ id, id ∈ g.nodeIds ↔ id ∈ h.nodeIds
  node : ∀ id k, ((g.nodeAttributes.get? id).getD ∅).get? k =
    ((h.nodeAttributes.get? id).getD ∅).get? k
  edges : List.Forall₂ (fun d e => d.source = e.source ∧ d.target = e.target ∧
    ∀ k, d.attributes.get? k = e.attributes.get? k) g.edges h.edges

lemma same.facts (hs : g.same h) : g.Same h := by
  simp only [same, Bool.and_eq_true, beq_iff_eq, List.all_eq_true, Prod.forall] at hs
  obtain ⟨⟨⟨⟨⟨⟨hkind, -⟩, -⟩, hattributes⟩, hnodes⟩, hlen⟩, hedges⟩ := hs
  have hnode := Dict.get?_of_sameBy hnodes
  refine ⟨hkind, get?_of_sameAttributes hattributes, fun id => ?_, fun id k => ?_, ?_⟩
  · rw [nodeIds, nodeIds, Dict.mem_keys_iff, Dict.mem_keys_iff]
    rcases hnode id with ⟨ha, hb⟩ | ⟨a, b, ha, hb, -⟩ <;> simp [ha, hb]
  · rcases hnode id with ⟨ha, hb⟩ | ⟨a, b, ha, hb, hab⟩
    · rw [ha, hb]
    · rw [ha, hb, Option.getD_some, Option.getD_some, get?_of_sameAttributes hab]
  · refine List.forall₂_iff_zip.2 ⟨hlen, fun {d e} hde => ?_⟩
    obtain ⟨⟨hsource, htarget⟩, hlist⟩ := hedges d e hde
    exact ⟨hsource, htarget, get?_of_sameAttributes hlist⟩

/-- The label of the node with the id, if there is one. -/
def labelOf (g : Graph) (id : String) : String :=
  Node.label ⟨id, (g.nodeAttributes.get? id).getD ∅⟩

lemma map_label_nodes (g : Graph) : g.nodes.map Node.label = g.nodeIds.map g.labelOf := by
  rw [nodes_eq_map_nodeIds, List.map_map]
  rfl

/-- The graph is made by operations on an empty one. -/
def Built (g : Graph) : Prop :=
  ∃ (kind : Kind) (strict : Bool) (id : String) (ops : List Operation),
    g = (empty kind strict id).run ops

end Graph

/-! ### What is drawn of the same graph -/

lemma Node.looksLike_of_get? {id : String} {a b : Attributes} (h : ∀ k, a.get? k = b.get? k) :
    LooksLike ⟨id, a⟩ ⟨id, b⟩ := by
  constructor <;> simp [label, Attributes.label?, Scene.shape, Scene.fill, Scene.stroke, h]

namespace Graph.Same

variable {g h : Graph} (s : g.Same h)
include s

lemma looksLike (ho : g.nodeIds = h.nodeIds) : g.LooksLike h where
  kind := s.kind
  background := s.attributes "bgcolor"
  nodes := by
    rw [nodes_eq_map_nodeIds, nodes_eq_map_nodeIds, ← ho, List.forall₂_map_left_iff,
      List.forall₂_map_right_iff, List.forall₂_same]
    exact fun id _ => Node.looksLike_of_get? (s.node id)
  edges := by
    refine s.edges.imp fun d e ⟨hsource, htarget, hlist⟩ => ⟨?_, ?_, ?_⟩
    · rw [Edge.label?, Edge.label?, Attributes.label?, Attributes.label?, hlist]
    · rw [index?, index?, hsource, ho]
    · rw [index?, index?, htarget, ho]

lemma labelOf_eq (id : String) : g.labelOf id = h.labelOf id :=
  (Node.looksLike_of_get? (s.node id)).label

lemma nodeIds_eq_of_labels (hn : (g.nodes.map Node.label).Nodup)
    (hl : g.nodes.map Node.label = h.nodes.map Node.label) : g.nodeIds = h.nodeIds := by
  rw [map_label_nodes] at hn
  rw [map_label_nodes, map_label_nodes, ← funext s.labelOf_eq, ← List.forall₂_eq_eq_eq,
    List.forall₂_map_left_iff, List.forall₂_map_right_iff, List.forall₂_iff_zip] at hl
  rw [← List.forall₂_eq_eq_eq, List.forall₂_iff_zip]
  refine ⟨hl.1, fun {x y} hxy => ?_⟩
  obtain ⟨hx, hy⟩ := List.of_mem_zip hxy
  exact List.inj_on_of_nodup_map hn hx ((s.mem_nodeIds y).2 hy) (hl.2 hxy)

end Graph.Same

namespace Config

open Scene

lemma labels_eq_of_drawGraph_eq {c : Config} (hc : c.check = .ok ()) {g h : Graph}
    (heq : c.drawGraph g = c.drawGraph h) : g.nodes.map Node.label = h.nodes.map Node.label := by
  rw [drawGraph_eq hc, drawGraph_eq hc, Except.ok.injEq] at heq
  have hdrawing : (c.scene g).drawing c = (c.scene h).drawing c := by
    have hread := Markup.read?_text (proper_drawing c (c.scene g))
    rw [heq, Markup.read?_text (proper_drawing c (c.scene h)), Option.some.injEq] at hread
    exact hread.symm
  have hnodes : (c.scene g).nodes c = (c.scene h).nodes c := by
    simp only [Scene.drawing, Markup.Element.node.injEq, List.cons.injEq, true_and,
      and_true] at hdrawing
    exact hdrawing.2.2
  rw [← c.flatMap_nodes g (contents_node c), ← c.flatMap_nodes h (contents_node c), hnodes]

/-- Graphs that count as the same are drawn alike when their nodes stand in the same order, and
where each node has a label of its own, with settings that can be used, only then. -/
theorem drawGraph_eq_of_same (c : Config) {g h : Graph} (hs : g.same h) :
    (g.nodeIds = h.nodeIds → c.drawGraph g = c.drawGraph h) ∧
      (c.check = .ok () → (g.nodes.map Node.label).Nodup →
        (c.drawGraph g = c.drawGraph h ↔ g.nodeIds = h.nodeIds)) := by
  have hsame := Graph.same.facts hs
  have halike (ho : g.nodeIds = h.nodeIds) : c.drawGraph g = c.drawGraph h := by
    rw [drawGraph, drawGraph, draw, draw, (hsame.looksLike ho).drawing_scene]
  refine ⟨halike, fun hc hn => ⟨fun heq => ?_, halike⟩⟩
  exact hsame.nodeIds_eq_of_labels hn (labels_eq_of_drawGraph_eq hc heq)

/-- Two nodes with the attributes of the first one in two orders. -/
def sorted : Graph := (Graph.empty .directed false "G").run
  [.upsertNode "a" ∅ (Dict.ofList [("shape", "box"), ("color", "red")]), .ensureNode "b" ∅]

def resorted : Graph := (Graph.empty .directed false "G").run
  [.upsertNode "a" ∅ (Dict.ofList [("color", "red"), ("shape", "box")]), .ensureNode "b" ∅]

theorem drawGraph_sorted_eq_resorted : sorted.same resorted ∧ standard.check = .ok () ∧
    (sorted.nodes.map Node.label).Nodup ∧
      standard.drawGraph sorted = standard.drawGraph resorted := by
  have hs : sorted.same resorted := by decide
  have hn : (sorted.nodes.map Node.label).Nodup := by decide
  have ho : sorted.nodeIds = resorted.nodeIds := by decide
  refine ⟨hs, rfl, hn, ?_⟩
  exact ((drawGraph_eq_of_same standard hs).2 rfl hn).2 ho

/-- A graph of nodes only. -/
def loose (ids : List String) : Graph :=
  (Graph.empty .directed false "G").run (ids.map fun id => .ensureNode id ∅)

lemma built_loose (ids : List String) : (loose ids).Built := ⟨.directed, false, "G", _, rfl⟩

/-- The order of nodes shows in a drawing, but does not count when graphs are compared. -/
theorem not_drawGraph_eq_of_same : ¬ ∀ (c : Config) (g h : Graph), g.Built → h.Built →
    g.same h → c.drawGraph g = c.drawGraph h := by
  intro hall
  have hsame : (loose ["a", "b"]).same (loose ["b", "a"]) := by decide
  have hdrawn := hall standard _ _ (built_loose ["a", "b"]) (built_loose ["b", "a"]) hsame
  have hlabels : (loose ["a", "b"]).nodes.map Node.label ≠
      (loose ["b", "a"]).nodes.map Node.label := by decide
  exact hlabels (labels_eq_of_drawGraph_eq rfl hdrawn)

end Config

end DotDrawing
