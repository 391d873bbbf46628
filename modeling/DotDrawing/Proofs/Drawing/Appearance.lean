import DotDrawing.Proofs.Drawing.Reading
import DotDrawing.Proofs.Graph.Soundness
import Mathlib.Data.List.Forall2
import Mathlib.Data.List.Nodup

/-!
What a drawing depends on.

The place of a node is given by its index in the order of discovery, whatever its id is
(`Circle.get?_place`). So graphs that agree in what is drawn of their nodes and edges, index by
index, have the same drawing. Main statement: `Config.drawGraph_eq_of_looksLike`.
-/

namespace DotDrawing

/-- The index of a node in the order of discovery. -/
def Graph.index? (g : Graph) (id : String) : Option Nat := g.nodeIds.idxOf? id

lemma Graph.nodup_nodeIds (g : Graph) : g.nodeIds.Nodup := Dict.nodup_keys _

/-! ### Places by index -/

lemma lookup_zipIdx {β : Type} (f : Nat → β) (ks : List String) (start : Nat) (x : String) :
    ((ks.zipIdx start).map fun p => (p.1, f p.2)).lookup x =
      (ks.idxOf? x).map fun i => f (start + i) := by
  induction ks generalizing start with
  | nil => rfl
  | cons k ks ih =>
    rw [List.zipIdx_cons, List.map_cons, List.idxOf?_cons]
    by_cases hk : k = x
    · simp [hk]
    · have hx : (x == k) = false := beq_eq_false_iff_ne.2 (Ne.symm hk)
      rw [List.lookup_cons, hx, if_neg (by simpa using hk), Option.map_map]
      refine (ih (start + 1)).trans ?_
      simp only [Function.comp_def, Nat.add_right_comm, Nat.add_assoc]

lemma Circle.get?_place (c : Circle) (g : Graph) (id : String) : (c.place g).get? id =
    (g.index? id).map fun i => c.position i g.nodeIds.length := by
  have hkeys : ((g.nodeIds.zipIdx.map fun p => (p.1, c.position p.2 g.nodeIds.length)).map
      Prod.fst) = g.nodeIds := by
    rw [List.map_map]
    exact List.zipIdx_map_fst 0 g.nodeIds
  have hentries : (c.place g).entries =
      g.nodeIds.zipIdx.map fun p => (p.1, c.position p.2 g.nodeIds.length) := by
    refine (Dict.entries_insertAll_of_disjoint (d := ∅) ?_ (by simp)).trans (by simp)
    rw [hkeys]
    exact g.nodup_nodeIds
  rw [Dict.get?, hentries, lookup_zipIdx fun i => c.position i g.nodeIds.length, Graph.index?]
  simp only [Nat.zero_add]

lemma idxOf?_getElem {ks : List String} (hks : ks.Nodup) {i : Nat} (hi : i < ks.length) :
    ks.idxOf? ks[i] = some i := by
  refine List.idxOf?_eq_some_iff.2 ⟨hi, rfl, fun j hj hji => ?_⟩
  have := hks.getElem_inj_iff.1 hji
  omega

lemma Graph.index?_id (g : Graph) {i : Nat} (hi : i < g.nodes.length) :
    g.index? g.nodes[i].id = some i := by
  have hlt : i < (g.nodes.map Node.id).length := by rwa [List.length_map]
  have hnodup : (g.nodes.map Node.id).Nodup := by
    rw [map_id_nodes]
    exact g.nodup_nodeIds
  rw [index?, ← map_id_nodes, ← List.getElem_map Node.id (h := hlt), idxOf?_getElem hnodup]

/-! ### Graphs that look the same -/

/-- The nodes are drawn alike: the same label, and the same outline in the same colors. -/
structure Node.LooksLike (m n : Node) : Prop where
  label : m.label = n.label
  shape : Scene.shape m = Scene.shape n
  fill : Scene.fill m = Scene.fill n
  stroke : Scene.stroke m = Scene.stroke n

/-- The edges, one of each graph, are drawn alike: the same label, and ends with the same index. -/
structure Edge.LooksLike (g h : Graph) (e f : Edge) : Prop where
  label : e.label? = f.label?
  source : g.index? e.source = h.index? f.source
  target : g.index? e.target = h.index? f.target

/-- The graphs agree in all that is drawn, index by index. -/
structure Graph.LooksLike (g h : Graph) : Prop where
  kind : g.kind = h.kind
  background : g.attributes.get? "bgcolor" = h.attributes.get? "bgcolor"
  nodes : List.Forall₂ Node.LooksLike g.nodes h.nodes
  edges : List.Forall₂ (Edge.LooksLike g h) g.edges h.edges

namespace Scene

lemma edge_eq {g h : Graph} {e f : Edge} (l : e.LooksLike g h f) (r : Route) :
    edge e r = edge f r := by
  rw [edge, edge, edgeLabel?, edgeLabel?, l.label]

lemma node_eq {m n : Node} (l : m.LooksLike n) (c : Config) (center : Point) :
    node c m center = node c n center := by
  rw [node, node, l.label, l.shape, l.fill, l.stroke]

end Scene

namespace Graph.LooksLike

variable {g h : Graph} (l : g.LooksLike h) (c : Config)
include l

lemma length_nodeIds : g.nodeIds.length = h.nodeIds.length := by
  rw [← map_id_nodes, ← map_id_nodes, List.length_map, List.length_map, l.nodes.length_eq]

lemma get?_place {x y : String} (hxy : g.index? x = h.index? y) :
    (c.circle.place g).get? x = (c.circle.place h).get? y := by
  rw [Circle.get?_place, Circle.get?_place, hxy, l.length_nodeIds]

lemma edges_scene : (c.scene g).edges = (c.scene h).edges := by
  rw [c.edges_scene, c.edges_scene]
  refine filterMap_eq_of_forall₂ (l.edges.imp fun e f hef => ?_)
  have hroute : c.routeOf? g (c.circle.place g) e = c.routeOf? h (c.circle.place h) f := by
    rw [Config.routeOf?, Config.routeOf?, l.get?_place c hef.source, l.get?_place c hef.target,
      l.kind, hef.label]
  rw [hroute, funext (Scene.edge_eq hef)]

lemma nodes_scene : (c.scene g).nodes c = (c.scene h).nodes c := by
  refine filterMap_eq_of_forall₂ (List.forall₂_iff_get.2 ⟨l.nodes.length_eq, fun i hi hj => ?_⟩)
  have hlook : g.nodes[i].LooksLike h.nodes[i] := l.nodes.get hi hj
  have hplace := l.get?_place c ((g.index?_id hi).trans (h.index?_id hj).symm)
  change ((c.circle.place g).get? g.nodes[i].id).map (Scene.node c g.nodes[i]) =
    ((c.circle.place h).get? h.nodes[i].id).map (Scene.node c h.nodes[i])
  rw [hplace, funext (Scene.node_eq hlook c)]

lemma drawing_scene : (c.scene g).drawing c = (c.scene h).drawing c := by
  have hbackground : (c.scene g).background c = (c.scene h).background c := by
    change Scene.background c ⟨g, _, _⟩ = Scene.background c ⟨h, _, _⟩
    simp only [Scene.background, l.background]
  rw [Scene.drawing, Scene.drawing, hbackground, l.edges_scene, l.nodes_scene]

end Graph.LooksLike

/-! ### What is not drawn -/

/-- `h` is `g` with other ids for the nodes that show a label. All attributes that are not drawn,
the order of the others, the id of the graph and whether it is strict may differ. -/
structure Graph.Renames (f : String → String) (g h : Graph) : Prop where
  kind : g.kind = h.kind
  background : g.attributes.get? "bgcolor" = h.attributes.get? "bgcolor"
  nodes : List.Forall₂ (fun m n => n.id = f m.id ∧
    (m.attributes.label?.isSome ∨ f m.id = m.id) ∧
    ∀ key ∈ ["label", "shape", "fillcolor", "color"],
      m.attributes.get? key = n.attributes.get? key) g.nodes h.nodes
  edges : List.Forall₂ (fun d e => e.source = f d.source ∧ e.target = f d.target ∧
    d.attributes.get? "label" = e.attributes.get? "label") g.edges h.edges

namespace Graph.Renames

variable {f : String → String} {g h : Graph} (r : g.Renames f h)
include r

lemma nodeIds_eq : h.nodeIds = g.nodeIds.map f := by
  have hids : List.Forall₂ (fun m n => f m.id = n.id) g.nodes h.nodes :=
    r.nodes.imp fun m n hmn => hmn.1.symm
  rw [← map_id_nodes, ← map_id_nodes, List.map_map, ← List.forall₂_eq_eq_eq,
    List.forall₂_map_left_iff, List.forall₂_map_right_iff]
  exact hids.flip.imp fun n m hmn => hmn.symm

lemma index?_eq {x : String} (hx : x ∈ g.nodeIds) : g.index? x = h.index? (f x) := by
  obtain ⟨i, hi, rfl⟩ := List.mem_iff_getElem.1 hx
  have hlt : i < (g.nodeIds.map f).length := by rwa [List.length_map]
  have hnodup : (g.nodeIds.map f).Nodup := by
    rw [← r.nodeIds_eq]
    exact h.nodup_nodeIds
  rw [index?, index?, r.nodeIds_eq, idxOf?_getElem g.nodup_nodeIds hi,
    ← List.getElem_map f (h := hlt), idxOf?_getElem hnodup]

lemma looksLike (hg : g.Joined) : g.LooksLike h where
  kind := r.kind
  background := r.background
  nodes := by
    refine r.nodes.imp fun m n ⟨hid, hshown, hkeys⟩ => ?_
    simp only [List.mem_cons, List.not_mem_nil, or_false, forall_eq_or_imp, forall_eq] at hkeys
    obtain ⟨hlabel, hshape, hfill, hcolor⟩ := hkeys
    have hlabel : m.attributes.label? = n.attributes.label? := by
      rw [Attributes.label?, Attributes.label?, hlabel]
    refine ⟨?_, ?_, ?_, ?_⟩
    · -- the id counts only where there is no label
      rw [Node.label, Node.label, ← hlabel, hid]
      rcases hshown with hsome | hsame
      · obtain ⟨text, htext⟩ := Option.isSome_iff_exists.1 hsome
        rw [htext, Option.getD_some, Option.getD_some]
      · rw [hsame]
    · rw [Scene.shape, Scene.shape, hshape]
    · rw [Scene.fill, Scene.fill, hfill, hcolor]
    · rw [Scene.stroke, Scene.stroke, hcolor]
  edges := by
    have hends : ∀ d ∈ g.edges, d.source ∈ g.nodeIds ∧ d.target ∈ g.nodeIds := hg
    refine List.forall₂_iff_zip.2 ⟨r.edges.length_eq, fun {d e} hde => ?_⟩
    obtain ⟨hsource, htarget, hlabel⟩ := (List.forall₂_iff_zip.1 r.edges).2 hde
    obtain ⟨hs, ht⟩ := hends d (List.of_mem_zip hde).1
    refine ⟨?_, ?_, ?_⟩
    · rw [Edge.label?, Edge.label?, Attributes.label?, Attributes.label?, hlabel]
    · rw [hsource, r.index?_eq hs]
    · rw [htarget, r.index?_eq ht]

end Graph.Renames

namespace Config

/-- **A drawing depends on what is drawn**: whatever the settings are, graphs that agree index by
index in the looks of their nodes and edges have the same drawing or the same failure. So have a
graph that is made by operations and one that has other ids for nodes with labels and differs in
nothing else that is drawn. -/
theorem drawGraph_eq_of_looksLike (c : Config) (g h : Graph) :
    (g.LooksLike h → c.drawGraph g = c.drawGraph h) ∧
      ∀ rename, g.Joined → g.Renames rename h → c.drawGraph g = c.drawGraph h := by
  have hlook (l : g.LooksLike h) : c.drawGraph g = c.drawGraph h := by
    rw [drawGraph, drawGraph, draw, draw, l.drawing_scene]
  exact ⟨hlook, fun rename hg r => hlook (r.looksLike hg)⟩

/-- Two joined nodes with labels, the first one in a box. -/
def boxed : Graph := (Graph.empty .directed true "G").run
  [.upsertNode "a" ∅ (Dict.ofList [("label", "start"), ("shape", "box"), ("color", "red")]),
    .upsertNode "b" ∅ (Dict.ofList [("label", "end")]),
    .addEdge "a" "b" ∅ (Dict.ofList [("label", "go"), ("weight", "2")])]

/-- The same to the eye: the other word for a box, colors that are the standard ones, and the ids
of the nodes exchanged. -/
def boxedAgain : Graph := (Graph.empty .directed false "again").run
  [.mergeAttributes (Dict.ofList [("rankdir", "LR")]),
    .addEdge "b" "a" ∅ (Dict.ofList [("label", "go")]),
    .upsertNode "b" ∅ (Dict.ofList [("fillcolor", "red"), ("color", "red"), ("shape", "rect"),
      ("label", "start"), ("tooltip", "first")]),
    .upsertNode "a" ∅ (Dict.ofList [("fillcolor", "#e3f2fd"), ("label", "end")])]

/-- The same with other ids and in another order of attributes. -/
def boxedRenamed : Graph := (Graph.empty .directed false "H").run
  [.upsertNode "a1" ∅ (Dict.ofList [("color", "red"), ("shape", "box"), ("label", "start")]),
    .addEdge "a1" "b1" ∅ (Dict.ofList [("label", "go")]),
    .upsertNode "b1" ∅ (Dict.ofList [("label", "end")])]

theorem drawGraph_eq_of_looksLike_boxed :
    boxed.LooksLike boxedAgain ∧ standard.drawGraph boxed = standard.drawGraph boxedAgain ∧
      boxed.Joined ∧ boxed.Renames (· ++ "1") boxedRenamed ∧
      standard.drawGraph boxed = standard.drawGraph boxedRenamed := by
  have hlook : boxed.LooksLike boxedAgain :=
    ⟨rfl, rfl, .cons ⟨rfl, rfl, rfl, rfl⟩ (.cons ⟨rfl, rfl, rfl, rfl⟩ .nil),
      .cons ⟨rfl, rfl, rfl⟩ .nil⟩
  have hjoined : boxed.Joined := by decide
  have hrenames : boxed.Renames (· ++ "1") boxedRenamed :=
    ⟨rfl, rfl, .cons ⟨rfl, Or.inl rfl, by decide⟩ (.cons ⟨rfl, Or.inl rfl, by decide⟩ .nil),
      .cons ⟨rfl, rfl, rfl⟩ .nil⟩
  exact ⟨hlook, (drawGraph_eq_of_looksLike standard boxed boxedAgain).1 hlook, hjoined, hrenames,
    (drawGraph_eq_of_looksLike standard boxed boxedRenamed).2 _ hjoined hrenames⟩

end Config

end DotDrawing
