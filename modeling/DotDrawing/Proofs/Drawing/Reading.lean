import DotDrawing.Failure
import DotDrawing.Proofs.Dict.Merge
import DotDrawing.Proofs.Drawing.Elements
import Mathlib.Data.List.Forall2

/-!
What a drawing shows.

Whatever the texts and colors of a graph are, its drawing is read back as it was made: the labels
come back as they are, the colors without the characters that mean something inside markup, and no
text or color makes a tag. Main statement: `Config.drawGraph_reads_back`.
-/

namespace DotDrawing

open Markup

namespace Scene

/-- The characters that a color loses are these five. -/
lemma plainColor_eq (color : String) : plainColor color =
    String.ofList (color.toList.filter (· ∉ ['"', '\'', '<', '>', '&'])) := by
  have hkept : ∀ c ∈ color.toList, (!(c == '"' || c == '\'' || c == '<' || c == '>' || c == '&')) =
      decide (c ∉ ['"', '\'', '<', '>', '&']) := by
    intro c _
    simp only [List.mem_cons, List.not_mem_nil, or_false, not_or, Bool.not_or, Bool.decide_and,
      decide_not, Bool.and_assoc, beq_eq_decide]
  rw [plainColor, List.filter_congr hkept]

end Scene

namespace Config

open Scene

variable (c : Config) (g : Graph)

/-- The edges between nodes at two places that can be told apart. -/
def drawnEdges : List Edge :=
  g.edges.filter fun e => (c.routeOf? g (c.circle.place g) e).isSome

lemma edges_scene : (c.scene g).edges =
    g.edges.filterMap fun e => (c.routeOf? g (c.circle.place g) e).map (edge e) := by
  change (g.edges.zip (g.edges.map (c.routeOf? g (c.circle.place g)))).filterMap _ = _
  rw [← List.map_prod_left_eq_zip, List.filterMap_map]
  rfl

lemma exists_place {id : String} (h : id ∈ g.nodeIds) :
    ∃ p, (c.circle.place g).get? id = some p := by
  rw [← Option.isSome_iff_exists, ← Dict.mem_keys_iff, Circle.place, Dict.ofList,
    Dict.mem_keys_insertAll]
  right
  obtain ⟨i, hi, rfl⟩ := List.mem_iff_getElem.1 h
  simp only [List.map_map, List.mem_map]
  exact ⟨(g.nodeIds[i], i), by simp [List.mem_zipIdx_iff_getElem?, hi], rfl⟩

lemma nodes_scene : (c.scene g).nodes c =
    g.nodes.map fun n => node c n (((c.circle.place g).get? n.id).getD .origin) := by
  rw [← List.filterMap_eq_map']
  refine List.filterMap_congr fun n hn => ?_
  have hid : n.id ∈ g.nodeIds := by
    obtain ⟨e, he, rfl⟩ := List.mem_map.1 hn
    exact List.mem_map_of_mem he
  obtain ⟨p, hp⟩ := c.exists_place g hid
  simp [position?, scene, hp]

lemma routeOf?_eq_some {c : Config} {g : Graph} {positions : Dict Point} {e : Edge} {r : Route}
    (h : c.routeOf? g positions e = some r) :
    r.labelAnchor?.isSome = e.label?.isSome ∧ r.arrowhead?.isSome = g.kind.isDirected := by
  obtain ⟨p, -, h⟩ := Option.bind_eq_some_iff.1 h
  obtain ⟨q, -, h⟩ := Option.bind_eq_some_iff.1 h
  dsimp only [Router.route?] at h
  obtain ⟨-, h⟩ := Option.ite_none_left_eq_some.1 h
  rw [← Option.some.inj h]
  constructor
  · cases e.label?.isSome <;> rfl
  · cases g.kind.isDirected <;> rfl

lemma flatMap_edges {α : Type} {f : Element → List α} {out : Edge → Option α}
    (h : ∀ e r, c.routeOf? g (c.circle.place g) e = some r → f (edge e r) = (out e).toList) :
    (c.scene g).edges.flatMap f = (c.drawnEdges g).filterMap out := by
  rw [edges_scene, drawnEdges, List.filterMap_filter]
  induction g.edges with
  | nil => rfl
  | cons e es ih =>
    cases hr : c.routeOf? g (c.circle.place g) e with
    | none => simpa [hr] using ih
    | some r => cases ho : out e <;> simp [hr, ho, ih, h e r hr]

lemma flatMap_nodes {α : Type} {f : Element → List α} {out : Node → α}
    (h : ∀ n p, f (node c n p) = [out n]) :
    ((c.scene g).nodes c).flatMap f = g.nodes.map out := by
  rw [nodes_scene, List.flatMap_map]
  simp [h, ← List.map_eq_flatMap]

lemma contents_drawing : ((c.scene g).drawing c).contents =
    (c.drawnEdges g).filterMap Edge.label? ++ g.nodes.map Node.label := by
  rw [← c.flatMap_edges g fun e r hr => contents_edge (routeOf?_eq_some hr).1,
    ← c.flatMap_nodes g (contents_node c)]
  simp [Scene.drawing, Scene.background]

/-- What the parts of a drawing are to be filled with: the background, the arrowheads and the
nodes. -/
def fillColors : List String :=
  (g.attributes.get? "bgcolor").getD c.style.background ::
    (c.drawnEdges g).filterMap (fun _ => if g.kind.isDirected then some "black" else none) ++
      g.nodes.map fun n =>
        ((n.attributes.get? "fillcolor").or (n.attributes.get? "color")).getD "#e3f2fd"

/-- What the lines of a drawing are to be drawn with: those of the edges and of the nodes. -/
def strokeColors : List String :=
  (c.drawnEdges g).map (fun _ => "black") ++
    g.nodes.map fun n => (n.attributes.get? "color").getD "#2196f3"

lemma fills_drawing :
    ((c.scene g).drawing c).values "fill" = (c.fillColors g).map plainColor := by
  have hblack : plainColor "black" = edgeColor := by decide
  have hedge : ∀ e r, c.routeOf? g (c.circle.place g) e = some r →
      (edge e r).values "fill" =
        ((if g.kind.isDirected then some "black" else none).map plainColor).toList := by
    intro e r hr
    rw [fills_edge, ← (routeOf?_eq_some hr).2]
    cases r.arrowhead? <;> simp [hblack]
  have hnodes := c.flatMap_nodes g (fills_node c)
  have hedges := c.flatMap_edges g hedge
  calc ((c.scene g).drawing c).values "fill"
    _ = plainColor ((g.attributes.get? "bgcolor").getD c.style.background) ::
        ((c.scene g).edges.flatMap (Markup.Element.values "fill") ++
          ((c.scene g).nodes c).flatMap (Markup.Element.values "fill")) := by
      simp [Scene.drawing, Scene.background, scene, List.lookup_cons]
    _ = (c.fillColors g).map plainColor := by
      rw [hedges, hnodes, fillColors, List.cons_append, List.map_cons, List.map_append,
        List.map_filterMap, List.map_map]
      rfl

lemma strokes_drawing :
    ((c.scene g).drawing c).values "stroke" = (c.strokeColors g).map plainColor := by
  have hblack : plainColor "black" = edgeColor := by decide
  have hedge : ∀ e r, c.routeOf? g (c.circle.place g) e = some r →
      (edge e r).values "stroke" = (some (plainColor "black")).toList := by
    intro e r _
    rw [strokes_edge, hblack]
    rfl
  have hnodes := c.flatMap_nodes g (strokes_node c)
  have hedges := c.flatMap_edges g hedge
  calc ((c.scene g).drawing c).values "stroke"
    _ = (c.scene g).edges.flatMap (Markup.Element.values "stroke") ++
        ((c.scene g).nodes c).flatMap (Markup.Element.values "stroke") := by
      simp [Scene.drawing, Scene.background, List.lookup_cons]
    _ = (c.strokeColors g).map plainColor := by
      rw [hedges, hnodes, List.filterMap_eq_map', strokeColors, List.map_append, List.map_map,
        List.map_map]
      rfl

lemma drawGraph_eq {c : Config} (hc : c.check = .ok ()) (g : Graph) :
    c.drawGraph g = .ok ((c.scene g).drawing c).text := by
  rw [drawGraph, draw, hc]
  rfl

end Config

/-! ### Two graphs -/

/-- Graphs in which the same nodes of the same shapes are joined by the same edges, with labels at
the same edges. What the labels and the colors say may differ. -/
structure Graph.Alike (g h : Graph) : Prop where
  kind : g.kind = h.kind
  nodeIds : g.nodeIds = h.nodeIds
  shapes : g.nodes.map Scene.shape = h.nodes.map Scene.shape
  edges : g.edges.map (fun e => (e.source, e.target, e.label?.isSome)) =
    h.edges.map fun e => (e.source, e.target, e.label?.isSome)

lemma filterMap_eq_of_forall₂ {α β γ : Type} {f : α → Option γ} {f' : β → Option γ} {xs : List α}
    {ys : List β} (h : List.Forall₂ (fun x y => f x = f' y) xs ys) :
    xs.filterMap f = ys.filterMap f' := by
  induction h with
  | nil => rfl
  | cons hxy _ ih => rw [List.filterMap_cons, List.filterMap_cons, hxy, ih]

lemma filterMap_eq_of_map_eq {α κ β : Type} {key : α → κ} {f f' : α → Option β} {xs ys : List α}
    (hkey : xs.map key = ys.map key) (h : ∀ x y, key x = key y → f x = f' y) :
    xs.filterMap f = ys.filterMap f' := by
  rw [← List.forall₂_eq_eq_eq, List.forall₂_map_left_iff, List.forall₂_map_right_iff] at hkey
  exact filterMap_eq_of_forall₂ (hkey.imp h)

namespace Graph.Alike

variable {g h : Graph} (a : g.Alike h) (c : Config)
include a

lemma place_eq : c.circle.place g = c.circle.place h := by
  rw [Circle.place, Circle.place, a.nodeIds]

lemma tags_edges :
    (c.scene g).edges.map Element.tags = (c.scene h).edges.map Element.tags := by
  rw [c.edges_scene, c.edges_scene, List.map_filterMap, List.map_filterMap]
  refine filterMap_eq_of_map_eq a.edges fun e f hkey => ?_
  obtain ⟨hs, ht, hl⟩ : e.source = f.source ∧ e.target = f.target ∧
      e.label?.isSome = f.label?.isSome := by simpa using hkey
  have hroute : c.routeOf? g (c.circle.place g) e = c.routeOf? h (c.circle.place h) f := by
    rw [Config.routeOf?, Config.routeOf?, a.place_eq, a.kind, hs, ht, hl]
  rw [hroute]
  cases c.routeOf? h (c.circle.place h) f with
  | none => rfl
  | some r => exact congrArg some (Scene.tags_edge r hl)

lemma tags_nodes :
    ((c.scene g).nodes c).map Element.tags = ((c.scene h).nodes c).map Element.tags := by
  have hkey : g.nodes.map (fun n => (n.id, Scene.shape n)) =
      h.nodes.map fun n => (n.id, Scene.shape n) := by
    have hids : g.nodes.map Node.id = h.nodes.map Node.id := by
      simpa [Graph.nodes, Graph.nodeIds, Dict.keys, Function.comp_def] using a.nodeIds
    rw [← List.zip_map', ← List.zip_map', hids, a.shapes]
  rw [c.nodes_scene, c.nodes_scene, List.map_map, List.map_map, ← List.filterMap_eq_map,
    ← List.filterMap_eq_map]
  refine filterMap_eq_of_map_eq hkey fun m n hmn => ?_
  obtain ⟨hid, hshape⟩ : m.id = n.id ∧ Scene.shape m = Scene.shape n := by simpa using hmn
  simp only [Function.comp_apply, hid, a.place_eq]
  exact congrArg some (Scene.tags_node _ hshape)

lemma tags_drawing : ((c.scene g).drawing c).tags = ((c.scene h).drawing c).tags := by
  have hedges := Scene.tags_group "edges" (a.tags_edges c)
  have hnodes := Scene.tags_group "nodes" (a.tags_nodes c)
  refine Element.tags_node_congr rfl ?_
  simp only [List.map_cons, List.map_nil, hedges, hnodes]
  rw [Scene.tags_background]

end Graph.Alike

namespace Config

open Scene

/-- **Reading a drawing back.** With settings that can be used, the text of a drawing is read as the
elements that were drawn. Its labels are those of the drawn edges and of the nodes as they are, and
its colors are those asked for without the five characters of markup. Graphs that differ in what
labels and colors say have the same tags. -/
theorem drawGraph_reads_back {c : Config} (hc : c.check = .ok ()) (g : Graph) :
    ∃ text, c.drawGraph g = .ok text ∧ read? text = some ((c.scene g).drawing c) ∧
      ((c.scene g).drawing c).contents =
        (c.drawnEdges g).filterMap Edge.label? ++ g.nodes.map Node.label ∧
      ((c.scene g).drawing c).values "fill" = (c.fillColors g).map (fun color =>
        String.ofList (color.toList.filter (· ∉ ['"', '\'', '<', '>', '&']))) ∧
      ((c.scene g).drawing c).values "stroke" = (c.strokeColors g).map (fun color =>
        String.ofList (color.toList.filter (· ∉ ['"', '\'', '<', '>', '&']))) ∧
      ∀ h, g.Alike h → ∃ text', c.drawGraph h = .ok text' ∧
        (tags? text).isSome ∧ tags? text = tags? text' := by
  have hplain (colors : List String) : colors.map plainColor = colors.map fun color =>
      String.ofList (color.toList.filter (· ∉ ['"', '\'', '<', '>', '&'])) :=
    List.map_congr_left fun color _ => plainColor_eq color
  refine ⟨_, drawGraph_eq hc g, read?_text (proper_drawing c _), c.contents_drawing g,
    (c.fills_drawing g).trans (hplain _), (c.strokes_drawing g).trans (hplain _),
    fun h a => ⟨_, drawGraph_eq hc h, ?_, ?_⟩⟩
  · rw [tags?_text (proper_drawing c _)]
    rfl
  · rw [tags?_text (proper_drawing c _), tags?_text (proper_drawing c _), a.tags_drawing c]

/-- Two joined nodes, with the text for a label everywhere and the color for all colors. -/
def twoNodes (text color : String) : Graph where
  kind := .directed
  strict := false
  id := Graph.defaultId
  attributes := Dict.ofList [("bgcolor", color)]
  nodeAttributes := Dict.ofList
    [("a", Dict.ofList [("label", text), ("color", color)]), ("b", Dict.ofList [("label", text)])]
  edges := [⟨"a", "b", Dict.ofList [("label", text)]⟩]

/-- Labels and a color that look like markup. -/
def tricky : Graph := twoNodes "</text>&lt;" "\"/><g class='x'>"

/-- The labels are read back as they are and the color without the characters of markup, and the
tags are those of plain labels and colors. -/
theorem drawGraph_reads_back_twoNodes :
    ∃ text text' drawing, standard.drawGraph tricky = .ok text ∧ read? text = some drawing ∧
      drawing.contents = (standard.drawnEdges tricky).map (fun _ => "</text>&lt;") ++
        ["</text>&lt;", "</text>&lt;"] ∧
      drawing.values "fill" = "/g class=x" :: (standard.drawnEdges tricky).map (fun _ => "black") ++
        ["/g class=x", "#e3f2fd"] ∧
      drawing.values "stroke" = (standard.drawnEdges tricky).map (fun _ => "black") ++
        ["/g class=x", "#2196f3"] ∧
      standard.drawGraph (twoNodes "label" "red") = .ok text' ∧
        (tags? text).isSome ∧ tags? text = tags? text' := by
  have a : tricky.Alike (twoNodes "label" "red") := ⟨by decide, by decide, by decide, by decide⟩
  have hc : standard.check = .ok () := rfl
  obtain ⟨text, htext, hread, hcontents, hfill, hstroke, htags⟩ := drawGraph_reads_back hc tricky
  obtain ⟨text', htext', hsome, heq⟩ := htags _ a
  have hlabel : ∀ e ∈ standard.drawnEdges tricky, e.label? = some "</text>&lt;" := by
    intro e he
    have he : e ∈ tricky.edges := (List.mem_filter.1 he).1
    rw [List.mem_singleton.1 he]
    decide
  have hfills : standard.fillColors tricky = "\"/><g class='x'>" ::
      (standard.drawnEdges tricky).map (fun _ => "black") ++ ["\"/><g class='x'>", "#e3f2fd"] := by
    rw [← List.filterMap_eq_map']
    rfl
  have hstrokes : standard.strokeColors tricky =
      (standard.drawnEdges tricky).map (fun _ => "black") ++ ["\"/><g class='x'>", "#2196f3"] := rfl
  -- what is left of each color
  simp only [← plainColor_eq] at hfill hstroke
  have hcolor : plainColor "\"/><g class='x'>" = "/g class=x" := by decide
  have hplain : ["black", "#e3f2fd", "#2196f3"].map plainColor =
      ["black", "#e3f2fd", "#2196f3"] := by decide
  simp only [List.map_cons, List.map_nil, List.cons.injEq, and_true] at hplain
  refine ⟨text, text', _, htext, hread, ?_, ?_, ?_, htext', hsome, heq⟩
  · rw [hcontents, List.filterMap_congr hlabel, List.filterMap_eq_map']
    rfl
  · rw [hfill, hfills]
    simp [hcolor, hplain]
  · rw [hstroke, hstrokes]
    simp [hcolor, hplain]

end Config

end DotDrawing
