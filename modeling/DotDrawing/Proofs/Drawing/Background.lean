import DotDrawing.Proofs.Color.Readers
import DotDrawing.Proofs.Drawing.Reading
import DotDrawing.Proofs.Token.Tidy

/-!
The background of a drawing.

The color of the background is written without the characters that mean something in markup. Of the
characters of a color only those in comments can be such ones, so a background is written as it is
set unless a comment in it says one. Main statement: `Config.drawGraph_background`.
-/

namespace DotDrawing

/-! ### Colors as they are written -/

namespace Color

/-- What the comments of a color say. -/
def remarks (s : String) : List (List Char) := commentsOf (Text.trim s.toList)

/-- All remarks are plain. -/
def PlainRemarks (s : String) : Prop := ∀ remark ∈ remarks s, ∀ c ∈ remark, isPlain c

lemma isPlain_of_isBlank {c : Char} (h : Text.isBlank c) : isPlain c :=
  (isPlain_of_not_any_marks (p := Text.isBlank) rfl h).1

lemma plainRemarks_iff {s : String} {color : Color} (h : read s = .ok color) :
    PlainRemarks s ↔ ∀ c ∈ s.toList, isPlain c := by
  obtain ⟨a, e, hs, ha, he⟩ := Text.exists_eq_append_trim_append s.toList
  have htrim : PlainRemarks s ↔ ∀ c ∈ Text.trim s.toList, isPlain c :=
    (walk_of_read h).plain_iff.symm
  -- what is trimmed is blank, and blanks are plain
  rw [htrim]
  constructor
  · intro hplain c hc
    rw [hs, List.mem_append, List.mem_append] at hc
    rcases hc with (hc | hc) | hc
    · exact isPlain_of_isBlank (ha c hc)
    · exact hplain c hc
    · exact isPlain_of_isBlank (he c hc)
  · intro hplain c hc
    refine hplain c ?_
    rw [hs]
    exact List.mem_append_left _ (List.mem_append_right _ hc)

end Color

namespace Scene

lemma plainColor_eq_self_iff (s : String) :
    plainColor s = s ↔ ∀ c ∈ s.toList, Color.isPlain c := by
  have hkept : plainColor s = String.ofList (s.toList.filter Color.isPlain) := rfl
  rw [hkept, ← List.filter_eq_self, ← String.toList_inj, String.toList_ofList]

lemma plainColor_eq_self_iff_plainRemarks {s : String} {color : Color}
    (h : Color.read s = .ok color) : plainColor s = s ↔ Color.PlainRemarks s := by
  rw [plainColor_eq_self_iff, Color.plainRemarks_iff h]

end Scene

/-! ### The background -/

namespace Config

open Markup Scene

lemma exists_color_of_check {c : Config} (hc : c.check = .ok ()) :
    ∃ color, Color.read c.style.background = .ok color := by
  -- the background is checked last
  have hlast : needColor c.style.background = .ok () := by
    simp only [check, bind_eq_ok_iff] at hc
    obtain ⟨_, -, _, -, _, -, _, -, _, -, _, -, _, -, h⟩ := hc
    exact h
  unfold needColor at hlast
  split at hlast
  · next color hread => exact ⟨color, hread⟩
  · cases hlast

/-- The drawing starts with a background of the fill. -/
def BackedBy (fill : String) (drawing : Element) : Prop :=
  ∃ attributes others, drawing = .node "svg" attributes
    (.node "rect" [("fill", fill), ("height", "100%"), ("width", "100%")] [] :: others)

lemma BackedBy.iff {fill fill' : String} {drawing : Element} (h : BackedBy fill drawing) :
    BackedBy fill' drawing ↔ fill = fill' := by
  constructor
  · rintro ⟨attributes', others', h'⟩
    obtain ⟨attributes, others, rfl⟩ := h
    simp only [Element.node.injEq, List.cons.injEq, Prod.mk.injEq] at h'
    exact h'.2.2.1.2.1.1.2
  · rintro rfl
    exact h

lemma backedBy_drawing (c : Config) {g : Graph} (hg : g.attributes.get? "bgcolor" = none) :
    BackedBy (plainColor c.style.background) ((c.scene g).drawing c) := by
  have hbackground : (c.scene g).background c = .node "rect"
      [("fill", plainColor c.style.background), ("height", "100%"), ("width", "100%")] [] := by
    have hcolor : ((c.scene g).graph.attributes.get? "bgcolor").getD c.style.background =
        c.style.background := by
      have hgraph : (c.scene g).graph = g := rfl
      rw [hgraph, hg, Option.getD_none]
    rw [Scene.background, hcolor]
  exact ⟨_, _, by rw [Scene.drawing, hbackground]⟩

/-- **The background as it is set.** A color is written as it is exactly when its comments are free
of the characters of markup. With settings that can be used, a graph without a background color of
its own is drawn on the background of the settings without those characters, so on the very
background of the settings exactly when no comment in it says one. -/
theorem drawGraph_background (s : String) (c : Config) (g : Graph) :
    (∀ color, Color.read s = .ok color → (plainColor s = s ↔ Color.PlainRemarks s)) ∧
      (c.check = .ok () → g.attributes.get? "bgcolor" = none →
        ∃ text drawing, c.drawGraph g = .ok text ∧ read? text = some drawing ∧
          BackedBy (plainColor c.style.background) drawing ∧
          (BackedBy c.style.background drawing ↔ Color.PlainRemarks c.style.background)) := by
  refine ⟨fun color h => plainColor_eq_self_iff_plainRemarks h, fun hc hg => ?_⟩
  obtain ⟨color, hcolor⟩ := exists_color_of_check hc
  have hbacked := c.backedBy_drawing hg
  refine ⟨_, _, drawGraph_eq hc g, read?_text (proper_drawing c _), hbacked, ?_⟩
  rw [hbacked.iff, plainColor_eq_self_iff_plainRemarks hcolor]

/-- The standard settings on a background with a remark. -/
def remarked (remark : String) : Config :=
  { standard with style.background := "rgb(/*" ++ remark ++ "*/1,2,3)" }

/-- A plain remark is drawn. -/
theorem drawGraph_background_night :
    plainColor "rgb(/*night*/1,2,3)" = "rgb(/*night*/1,2,3)" ∧
    ∃ text drawing, (remarked "night").drawGraph .unnamed = .ok text ∧
      read? text = some drawing ∧ BackedBy "rgb(/*night*/1,2,3)" drawing := by
  have hc : (remarked "night").check = .ok () := by decide +kernel
  have hplain : Color.PlainRemarks "rgb(/*night*/1,2,3)" := by
    have hremarks : Color.remarks "rgb(/*night*/1,2,3)" = ["night".toList] := by decide +kernel
    rw [Color.PlainRemarks, hremarks, List.forall_mem_singleton]
    exact List.all_eq_true.1 rfl
  obtain ⟨color, hcolor⟩ := exists_color_of_check hc
  obtain ⟨hcolors, hgraphs⟩ := drawGraph_background (remarked "night").style.background
    (remarked "night") .unnamed
  obtain ⟨text, drawing, hdrawn, hread, -, hiff⟩ := hgraphs hc rfl
  exact ⟨(hcolors color hcolor).2 hplain, text, drawing, hdrawn, hread, hiff.2 hplain⟩

/-- A remark with characters of markup is not drawn, and the background of the settings with it. -/
theorem not_drawGraph_background :
    (¬ ∀ s color, Color.read s = .ok color → plainColor s = s) ∧
    ¬ ∀ (c : Config) (g : Graph), c.check = .ok () → g.attributes.get? "bgcolor" = none →
      ∃ text drawing, c.drawGraph g = .ok text ∧ read? text = some drawing ∧
        BackedBy c.style.background drawing := by
  have hc : (remarked "'*'/").check = .ok () := by decide +kernel
  have hne : plainColor (remarked "'*'/").style.background ≠
      (remarked "'*'/").style.background := by
    decide
  obtain ⟨color, hcolor⟩ := exists_color_of_check hc
  refine ⟨fun h => hne (h _ color hcolor), fun h => ?_⟩
  obtain ⟨text, drawing, hdrawn, hread, hbacked⟩ := h (remarked "'*'/") .unnamed hc rfl
  rw [drawGraph_eq hc, Except.ok.injEq] at hdrawn
  rw [← hdrawn, read?_text (proper_drawing _ _), Option.some.injEq] at hread
  rw [← hread, (backedBy_drawing (remarked "'*'/") rfl).iff] at hbacked
  exact hne hbacked

end Config

end DotDrawing
