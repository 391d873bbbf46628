import DotDrawing.Color.Basic
import DotDrawing.Proofs.Color.Comments
import DotDrawing.Proofs.Outcome
import Mathlib.Data.List.TakeWhile

/-!
What the readers of colors take off a text.

Numbers, names, marks and white space are made of characters that mean nothing in markup, and a
reader leaves a comment as a whole or not at all. A reader that is put together from others walks
where they do. Main statement: a text that is a color is walked over to its end (`walk_of_read`).
-/

namespace DotDrawing.Color

variable {s t r rest : List Char} {c : Char}

/-! ### Characters that are taken -/

/-- The characters that are not plain, and the one that comments start with. -/
def marks : List Char := ['"', '\'', '<', '>', '&', '/']

lemma isPlain_of_not_any_marks {p : Char → Bool} (hp : marks.any p = false) (h : p c) :
    isPlain c ∧ c ≠ '/' := by
  have hne : ∀ d ∈ marks, c ≠ d := by
    rintro d hd rfl
    exact List.any_eq_false.1 hp c hd h
  simpa [isPlain, marks, and_assoc] using hne

/-- The marks that numbers are made of besides digits. -/
def isNumberMark (c : Char) : Bool := c == '+' || c == '-' || c == '.' || c == 'e' || c == 'E'

lemma Walk.char_of_not_any_marks {p : Char → Bool} (hp : marks.any p = false) (h : p c)
    (hwalk : Walk s r) : Walk (c :: s) r := by
  obtain ⟨hc, hslash⟩ := isPlain_of_not_any_marks hp h
  exact .char hc (fun hs => absurd hs hslash) hwalk

lemma walk_dropWhile {p : Char → Bool} (hp : marks.any p = false) (s : List Char) :
    Walk s (s.dropWhile p) := by
  conv => lhs; rw [← List.takeWhile_append_dropWhile (p := p) (l := s)]
  exact walk_append (fun c hc => isPlain_of_not_any_marks hp (List.mem_takeWhile_imp hc)) _

lemma walk_digits (s : List Char) : Walk s (s.dropWhile Char.isDigit) :=
  walk_dropWhile rfl s

lemma walk_mark (hc : isNumberMark c) (h : Walk s r) : Walk (c :: s) r :=
  h.char_of_not_any_marks (p := isNumberMark) rfl hc

lemma walk_scanExponent (s : List Char) : Walk s (Decimal.scan?.scanExponent s).2 := by
  unfold Decimal.scan?.scanExponent
  split
  · next e r =>
    split
    · next he =>
      have hmark : isNumberMark e := by rcases he with rfl | rfl <;> rfl
      dsimp only
      split
      · exact .refl _
      · refine walk_mark hmark ?_
        split
        · exact walk_mark rfl (walk_digits _)
        · exact walk_mark rfl (walk_digits _)
        · exact walk_digits _
    · exact .refl _
  · exact .refl _

lemma walk_of_scan? {w : Decimal.Written} (h : Decimal.scan? s = some (w, r)) : Walk s r := by
  unfold Decimal.scan? at h
  split at h
  next negative u hsigned =>
    have hsign : Walk s u := by
      split at hsigned
      · cases hsigned
        exact walk_mark rfl (.refl _)
      · cases hsigned
        exact walk_mark rfl (.refl _)
      · cases hsigned
        exact .refl _
    simp only [Option.ite_none_left_eq_some, Option.some.injEq, Prod.mk.injEq] at h
    obtain ⟨-, -, rfl⟩ := h
    refine hsign.trans ((walk_digits u).trans (.trans ?_ (walk_scanExponent _)))
    -- the fraction: a point with digits behind it, or nothing
    split
    · next v hpoint =>
      rw [hpoint]
      split
      · exact .refl _
      · exact walk_mark rfl (walk_digits v)
    · exact .refl _

/-! ### Readers -/

/-- What the reader takes off a text it walks over. -/
structure Reader.Walks {α : Type} (reader : Reader α) : Prop where
  walk {s r : List Char} {x : α} (h : reader s = .ok (x, r)) : Walk s r

section

variable {α β : Type} {reader : Reader α} {f : α → Reader β}

lemma walks_pure (x : α) : Reader.Walks (pure x) where
  walk {s r y} h := by
    cases h
    exact .refl s

lemma walks_fail (fault : Fault) : Reader.Walks (fail fault : Reader α) where
  walk h := by cases h

lemma Reader.Walks.bind (h : reader.Walks) (hf : ∀ x, (f x).Walks) : (reader >>= f).Walks where
  walk {s r y} hrun := by
    have hrun : (reader s >>= fun p => f p.1 p.2) = .ok (y, r) := hrun
    obtain ⟨⟨x, t⟩, hfirst, hrest⟩ := bind_eq_ok_iff.1 hrun
    exact (h.walk hfirst).trans ((hf x).walk hrest)

lemma get_bind (f : List Char → Reader β) (s : List Char) : (get >>= f : Reader β) s = f s s := rfl

lemma set_bind (t : List Char) (f : PUnit → Reader β) (s : List Char) :
    (set t >>= f : Reader β) s = f ⟨⟩ t := rfl

end

lemma walks_modify {f : List Char → List Char} (h : ∀ s, Walk s (f s)) :
    Reader.Walks (modify f : Reader Unit) where
  walk {s r x} hrun := by
    cases hrun
    exact h s

lemma walk_dropComments (s : List Char) : Walk s (dropComments s) := by
  fun_induction dropComments s with
  | case1 r r' hr ih => exact .comment hr ih
  | case2 | case3 => exact .refl _

lemma walk_dropGap (s : List Char) : Walk s (dropGap s) := by
  fun_induction dropGap s with
  | case1 s c r hs hspace ih =>
    have hcomments := walk_dropComments s
    rw [hs] at hcomments
    exact hcomments.trans (ih.char_of_not_any_marks (p := isSpace) rfl hspace)
  | case2 s c r hs _ =>
    rw [← hs]
    exact walk_dropComments s
  | case3 s hs =>
    rw [← hs]
    exact walk_dropComments s

lemma walks_comments : comments.Walks := walks_modify walk_dropComments

lemma walks_gap : gap.Walks := walks_modify walk_dropGap

lemma take?_cons (d c : Char) (s : List Char) :
    take? d (c :: s) = if c = d then .ok (true, s) else .ok (false, c :: s) := by
  rw [take?, get_bind]
  dsimp only
  split <;> rfl

lemma walk_of_take? {d : Char} {x : Bool} (hd : isPlain d)
    (hopen : d = '/' → "/*".toList.isPrefixOf s = false) (h : take? d s = .ok (x, r)) :
    Walk s r := by
  cases s with
  | nil =>
    cases h
    exact .refl _
  | cons c s =>
    rw [take?_cons] at h
    by_cases hc : c = d
    · rw [if_pos hc] at h
      cases h
      subst hc
      refine .char hd (fun hslash hstar => ?_) (.refl _)
      obtain ⟨s, rfl⟩ := List.head?_eq_some_iff.1 hstar
      have hopen := hopen hslash
      rw [hslash] at hopen
      cases hopen
    · rw [if_neg hc] at h
      cases h
      exact .refl _

lemma walks_take? {d : Char} (hd : isPlain d) (hslash : d ≠ '/') : (take? d).Walks where
  walk h := walk_of_take? hd (fun hs => absurd hs hslash) h

lemma walks_mark? {d : Char} (hd : isPlain d) : (mark? d).Walks := by
  refine walks_comments.bind fun _ => ⟨fun {s r x} h => ?_⟩
  rw [get_bind] at h
  by_cases hopen : "/*".toList.isPrefixOf s
  · rw [if_pos hopen] at h
    cases h
    exact .refl _
  · rw [if_neg hopen] at h
    exact walk_of_take? hd (fun _ => Bool.eq_false_iff.2 hopen) h

lemma walks_number? : number?.Walks := by
  refine walks_comments.bind fun _ => ⟨fun {s r x} h => ?_⟩
  rw [get_bind] at h
  cases hscan : Decimal.scan? s with
  | none =>
    rw [hscan] at h
    cases h
    exact .refl _
  | some p =>
    rw [hscan] at h
    cases h
    exact walk_of_scan? hscan

lemma walk_drop {p : Char → Bool} (hp : marks.any p = false) (ht : t <+: s)
    (h : ∀ c ∈ t, p c) : Walk s (s.drop t.length) := by
  obtain ⟨rest, rfl⟩ := ht
  rw [List.drop_left]
  exact walk_append (fun c hc => isPlain_of_not_any_marks hp (h c hc)) rest

lemma nameRun_prefix (s : List Char) : nameRun s <+: s ∧ ∀ c ∈ nameRun s, isNameChar c := by
  have hfront : s.takeWhile isNameChar <+: s := List.takeWhile_prefix _
  have hmem : ∀ c ∈ s.takeWhile isNameChar, isNameChar c := fun _ => List.mem_takeWhile_imp
  unfold nameRun
  split
  · next c r hrun =>
    rw [hrun] at hfront hmem
    split
    · refine ⟨List.IsPrefix.trans ⟨c :: r, rfl⟩ hfront, fun d hd => hmem d ?_⟩
      rw [List.mem_singleton.1 hd]
      exact List.mem_cons_self
    · exact ⟨hfront, hmem⟩
  · next c r _ hrun =>
    rw [hrun] at hfront hmem
    split
    · exact ⟨List.nil_prefix, nofun⟩
    · exact ⟨hfront, hmem⟩
  · exact ⟨List.nil_prefix, nofun⟩

lemma walks_identifier? : identifier?.Walks where
  walk {s r x} h := by
    obtain ⟨hfront, hname⟩ := nameRun_prefix s
    have hwalk : Walk s (s.drop (nameRun s).length) :=
      walk_drop (p := isNameChar) rfl hfront hname
    rw [identifier?, get_bind] at h
    generalize nameRun s = name at hwalk h
    split at h
    · cases h
      exact .refl _
    · cases h
      exact .refl _
    · cases h
      exact .refl _
    · cases h
      exact hwalk

lemma walks_hexDigits : hexDigits.Walks where
  walk {s r x} h := by
    have hfront : (s.take 8).takeWhile isHexDigit <+: s :=
      (List.takeWhile_prefix _).trans (List.take_prefix _ _)
    have hwalk : Walk s (s.drop ((s.take 8).takeWhile isHexDigit).length) :=
      walk_drop (p := isHexDigit) rfl hfront fun _ => List.mem_takeWhile_imp
    rw [hexDigits, get_bind] at h
    rw [set_bind] at h
    generalize ofHexDigits? (((s.take 8).takeWhile isHexDigit).map hexValue) = color? at h
    cases color? with
    | none => cases h
    | some color =>
      cases h
      exact hwalk

/-! ### Parts of colors -/

lemma walks_value? : value?.Walks := by
  refine walks_number?.bind fun n? => ?_
  split
  · refine (walks_take? (d := '%') (by decide) (by decide)).bind fun percent => ?_
    split
    · exact walks_pure _
    · refine walks_identifier?.bind fun unit? => ?_
      split <;> exact walks_pure _
  · exact walks_identifier?.bind fun _ => walks_pure _

lemma walks_component (scale percentScale : Float) : (component scale percentScale).Walks := by
  refine walks_gap.bind fun _ => walks_value?.bind fun value => ?_
  split
  · exact walks_pure _
  · exact walks_pure _
  · split
    · exact walks_pure _
    · exact walks_fail _
  · exact walks_fail _

lemma walks_angle : angle.Walks := by
  refine walks_gap.bind fun _ => walks_value?.bind fun value => ?_
  split
  · exact walks_pure _
  · split
    · exact walks_pure _
    · exact walks_fail _
  · split
    · exact walks_pure _
    · exact walks_fail _
  · exact walks_fail _

lemma walks_comma (wanted : Bool) : (comma wanted).Walks := by
  refine walks_gap.bind fun _ => ?_
  split
  · refine (walks_mark? (d := ',') (by decide)).bind fun found => ?_
    split
    · exact walks_pure _
    · exact walks_fail _
  · exact walks_pure _

lemma walks_alpha (commas : Bool) : (alpha commas).Walks := by
  refine walks_gap.bind fun _ => ?_
  have hmark : isPlain (if commas then ',' else '/') := by cases commas <;> rfl
  refine (walks_mark? hmark).bind fun found => ?_
  split
  · exact (walks_component _ _).bind fun _ => walks_pure _
  · exact walks_pure _

lemma walks_openParenthesis : openParenthesis.Walks := by
  refine (walks_take? (d := '(') (by decide) (by decide)).bind fun found => ?_
  split
  · exact walks_pure _
  · exact walks_fail _

lemma walks_closeParenthesis : closeParenthesis.Walks := by
  refine walks_gap.bind fun _ => (walks_mark? (d := ')') (by decide)).bind fun found => ?_
  split
  · exact walks_pure _
  · exact walks_fail _

/-! ### Whole colors -/

lemma walks_ending {α : Type} {commas : Bool} {f : Option Float → Reader α}
    (hf : ∀ a, (f a).Walks) :
    Reader.Walks (do let a ← alpha commas; closeParenthesis; f a) :=
  (walks_alpha commas).bind fun a => walks_closeParenthesis.bind fun _ => hf a

lemma walks_rgbComponent : rgbComponent.Walks :=
  (walks_component _ _).bind fun _ => walks_pure _

lemma walks_rgb : rgb.Walks :=
  walks_openParenthesis.bind fun _ => walks_rgbComponent.bind fun _ => walks_gap.bind fun _ =>
    (walks_mark? (d := ',') (by decide)).bind fun commas => walks_rgbComponent.bind fun _ =>
      (walks_comma commas).bind fun _ => walks_rgbComponent.bind fun _ =>
        walks_ending fun _ => walks_pure _

lemma walks_hsl : hsl.Walks :=
  walks_openParenthesis.bind fun _ => walks_angle.bind fun _ =>
    (walks_mark? (d := ',') (by decide)).bind fun commas => (walks_component _ _).bind fun _ =>
      (walks_comma commas).bind fun _ => (walks_component _ _).bind fun _ =>
        walks_ending fun _ => walks_pure _

lemma walks_hwb : hwb.Walks :=
  walks_openParenthesis.bind fun _ => walks_angle.bind fun _ => (walks_component _ _).bind fun _ =>
    (walks_component _ _).bind fun _ => walks_ending fun _ => walks_pure _

lemma walks_labLike (space : Space) (top scale : Float) : (labLike space top scale).Walks :=
  walks_openParenthesis.bind fun _ => (walks_component _ _).bind fun _ =>
    (walks_component _ _).bind fun _ => (walks_component _ _).bind fun _ =>
      walks_ending fun _ => walks_pure _

lemma walks_lchLike (space : Space) (top scale : Float) : (lchLike space top scale).Walks :=
  walks_openParenthesis.bind fun _ => (walks_component _ _).bind fun _ =>
    (walks_component _ _).bind fun _ => walks_angle.bind fun _ =>
      walks_ending fun _ => walks_pure _

lemma walks_inSpace : inSpace.Walks := by
  refine walks_openParenthesis.bind fun _ => walks_gap.bind fun _ =>
    walks_identifier?.bind fun name? => ?_
  split
  · exact walks_fail _
  · split
    · exact walks_fail _
    · exact (walks_component _ _).bind fun _ => (walks_component _ _).bind fun _ =>
        (walks_component _ _).bind fun _ => walks_ending fun _ => walks_pure _

lemma walks_byName (name : String) : (byName name).Walks := by
  unfold byName
  split
  · exact walks_rgb
  · exact walks_rgb
  · exact walks_hsl
  · exact walks_hsl
  · exact walks_hwb
  · exact walks_labLike ..
  · exact walks_labLike ..
  · exact walks_lchLike ..
  · exact walks_lchLike ..
  · exact walks_inSpace
  · split
    · exact walks_pure _
    · exact walks_fail _

lemma walks_reader : reader.Walks := by
  refine (walks_take? (d := '#') (by decide) (by decide)).bind fun hash => ?_
  split
  · exact walks_hexDigits
  · refine walks_identifier?.bind fun name? => ?_
    split
    · exact walks_byName _
    · exact walks_fail _

/-- A color is walked over to its end. -/
theorem walk_of_read {s : String} {color : Color} (h : read s = .ok color) :
    Walk (Text.trim s.toList) [] := by
  obtain ⟨p, hreader, hend⟩ := bind_eq_ok_iff.1 h
  split at hend
  · exact walks_reader.walk hreader
  · cases hend

end DotDrawing.Color
