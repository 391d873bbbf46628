import DotDrawing.Drawing.Scene
import DotDrawing.Proofs.Markup.Contents

/-!
The elements of a drawing.

All names in a drawing are proper, whatever the texts and colors are (`proper_drawing`). An element
holds the label and the colors that it was made with, and its tags do not depend on them.
-/

namespace DotDrawing

open Markup

/-! ### All names are proper -/

lemma Shape.proper_outline (shape : Shape) (center : Point) (radius : Float32)
    (fill stroke : String) : (shape.outline center radius fill stroke).Proper := by
  cases shape with
  | rectangle =>
    exact .ofKeys ["fill", "height", "rx", "ry", "stroke", "stroke-width", "width", "x", "y"] rfl
      (by decide) (by simp)
  | diamond => exact .ofKeys ["fill", "points", "stroke", "stroke-width"] rfl (by decide) (by simp)
  | ellipse =>
    exact .ofKeys ["cx", "cy", "fill", "rx", "ry", "stroke", "stroke-width"] rfl (by decide)
      (by simp)

namespace Scene

lemma proper_caption (content : String) (anchor : Point) : (caption content anchor).Proper := by
  have hkeys : ∀ key ∈ ["font-size", "text-anchor", "x", "y"], IsName key := by decide
  exact .label (by decide) hkeys

lemma proper_group (word : String) {children : List Element} (h : ∀ c ∈ children, c.Proper) :
    (Element.node "g" [("class", word)] children).Proper :=
  .ofKeys ["class"] rfl (by decide) h

lemma proper_background (c : Config) (s : Scene) : (s.background c).Proper :=
  .ofKeys ["fill", "height", "width"] rfl (by decide) (by simp)

lemma proper_line (r : Route) : (line r).Proper :=
  .ofKeys ["d", "stroke", "stroke-width"] rfl (by decide) (by simp)

lemma proper_arrowhead (a : Arrowhead) : (arrowhead a).Proper :=
  .ofKeys ["fill", "points"] rfl (by decide) (by simp)

lemma proper_edge (e : Edge) (r : Route) : (edge e r).Proper := by
  refine proper_group "edge" fun c hc => ?_
  rcases List.mem_cons.1 hc with rfl | hc
  · exact proper_line r
  rcases List.mem_append.1 hc with hc | hc
  · obtain ⟨a, -, rfl⟩ : ∃ a, r.arrowhead? = some a ∧ arrowhead a = c := by simpa using hc
    exact proper_arrowhead a
  · unfold edgeLabel? at hc
    split at hc
    · rw [List.mem_singleton.1 hc]
      exact proper_caption _ _
    · simp at hc

lemma proper_node (c : Config) (n : Node) (center : Point) : (node c n center).Proper := by
  refine proper_group "node" fun e he => ?_
  rcases List.mem_cons.1 he with rfl | he
  · exact (shape n).proper_outline center _ _ _
  · rw [List.mem_singleton.1 he]
    exact proper_caption _ _

lemma proper_drawing (c : Config) (s : Scene) : (s.drawing c).Proper := by
  have hedges : (Element.node "g" [("class", "edges")] s.edges).Proper := by
    refine proper_group "edges" fun e he => ?_
    obtain ⟨⟨f, r?⟩, -, h⟩ := List.mem_filterMap.1 he
    obtain ⟨r, -, rfl⟩ := Option.map_eq_some_iff.1 h
    exact proper_edge f r
  have hnodes : (Element.node "g" [("class", "nodes")] (s.nodes c)).Proper := by
    refine proper_group "nodes" fun e he => ?_
    obtain ⟨n, -, h⟩ := List.mem_filterMap.1 he
    obtain ⟨p, -, rfl⟩ := Option.map_eq_some_iff.1 h
    exact proper_node c n p
  refine .ofKeys ["height", "viewBox", "width", "xmlns"] rfl (by decide) fun e he => ?_
  rcases List.mem_cons.1 he with rfl | he
  · exact proper_background c s
  rcases List.mem_cons.1 he with rfl | he
  · exact hedges
  · rw [List.mem_singleton.1 he]
    exact hnodes

/-! ### Texts and colors of one element -/

lemma contents_edge {e : Edge} {r : Route} (h : r.labelAnchor?.isSome = e.label?.isSome) :
    (edge e r).contents = e.label?.toList := by
  have hhead : ((r.arrowhead?.map arrowhead).toList).flatMap Element.contents = [] := by
    cases r.arrowhead? <;> simp [arrowhead]
  have hlabel : (edgeLabel? e r).toList.flatMap Element.contents = e.label?.toList := by
    unfold edgeLabel?
    cases he : e.label? <;> cases hr : r.labelAnchor? <;> simp_all [caption]
  simp [edge, line, hhead, hlabel]

lemma fills_edge (e : Edge) (r : Route) :
    (edge e r).values "fill" = r.arrowhead?.toList.map fun _ => edgeColor := by
  have hlabel : (edgeLabel? e r).toList.flatMap (Element.values "fill") = [] := by
    unfold edgeLabel?
    split <;> simp [caption]
  cases h : r.arrowhead? <;> simp [edge, line, arrowhead, hlabel, h]

lemma strokes_edge (e : Edge) (r : Route) : (edge e r).values "stroke" = [edgeColor] := by
  have hlabel : (edgeLabel? e r).toList.flatMap (Element.values "stroke") = [] := by
    unfold edgeLabel?
    split <;> simp [caption]
  cases h : r.arrowhead? <;> simp [edge, line, arrowhead, hlabel, h, List.lookup_cons]

lemma contents_node (c : Config) (n : Node) (center : Point) :
    (node c n center).contents = [n.label] := by
  cases h : shape n <;> simp [node, Shape.outline, caption, h]

lemma fills_node (c : Config) (n : Node) (center : Point) :
    (node c n center).values "fill" = [plainColor (fill n)] := by
  cases h : shape n <;> simp [node, Shape.outline, caption, h, List.lookup_cons]

lemma strokes_node (c : Config) (n : Node) (center : Point) :
    (node c n center).values "stroke" = [plainColor (stroke n)] := by
  cases h : shape n <;> simp [node, Shape.outline, caption, h, List.lookup_cons]

/-! ### Tags of one element -/

lemma tags_group (word : String) {es fs : List Element}
    (h : es.map Element.tags = fs.map Element.tags) :
    (Element.node "g" [("class", word)] es).tags = (Element.node "g" [("class", word)] fs).tags :=
  Element.tags_node_congr rfl h

lemma tags_background {c : Config} (s s' : Scene) :
    (s.background c).tags = (s'.background c).tags :=
  Element.tags_node_congr rfl rfl

lemma tags_edge {e f : Edge} (r : Route) (h : e.label?.isSome = f.label?.isSome) :
    (edge e r).tags = (edge f r).tags := by
  have hlabel : (edgeLabel? e r).toList.map Element.tags =
      (edgeLabel? f r).toList.map Element.tags := by
    unfold edgeLabel?
    cases he : e.label? <;> cases hf : f.label? <;> cases hr : r.labelAnchor? <;> simp_all
    exact Element.tags_label_congr rfl
  refine tags_group "edge" ?_
  simp [hlabel]

lemma tags_node {c : Config} {m n : Node} (center : Point) (h : shape m = shape n) :
    (node c m center).tags = (node c n center).tags := by
  have houtline : ((shape m).outline center c.style.nodeRadius (plainColor (fill m))
      (plainColor (stroke m))).tags = ((shape n).outline center c.style.nodeRadius
        (plainColor (fill n)) (plainColor (stroke n))).tags := by
    rw [h]
    cases shape n <;> exact Element.tags_node_congr rfl rfl
  refine tags_group "node" ?_
  simp only [List.map_cons, List.map_nil, houtline]
  rw [caption, Element.tags_label_congr rfl]
  rfl

end Scene

end DotDrawing
