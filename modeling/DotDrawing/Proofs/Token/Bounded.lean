import DotDrawing.Proofs.Token.Lines

/-!
How far the rules read.

A rule that takes a token from the front of a text takes it also when the text ends behind the
token, and a rule that takes none takes none from the beginning of the text (`Bounded`).
-/

namespace DotDrawing

/-- What a reader does with a part of a text. It finds nothing there if it finds nothing with more
text behind, and it finds there what it finds with more text behind and inside the part. -/
structure Bounded {β : Type} (read : List Char → Option (β × List Char)) : Prop where
  of_eq_none : ∀ {s rest}, read (s ++ rest) = none → read s = none
  of_eq_some : ∀ {s rest t r}, read (s ++ rest) = some (t, r ++ rest) → read s = some (t, r)

/-! ### Readers of runs -/

section

variable {α : Type} {p : α → Bool} {s r rest : List α}

lemma dropWhile_of_append (h : (s ++ rest).dropWhile p = r ++ rest) : s.dropWhile p = r := by
  rw [List.dropWhile_append] at h
  split at h
  · next hnil =>
    -- all of the part is dropped, so nothing of it is left
    have hlen := (List.dropWhile_sublist p (l := rest)).length_le
    rw [h, List.length_append] at hlen
    have hr : r = [] := List.eq_nil_of_length_eq_zero (by omega)
    rw [hr]
    exact List.isEmpty_iff.1 hnil
  · exact List.append_cancel_right h

lemma takeWhile_of_append (h : (s ++ rest).dropWhile p = r ++ rest) :
    (s ++ rest).takeWhile p = s.takeWhile p := by
  have hwhole : (s ++ rest).takeWhile p ++ (r ++ rest) = s ++ rest := by
    rw [← h]
    exact List.takeWhile_append_dropWhile
  have hpart : s.takeWhile p ++ r = s := by
    rw [← dropWhile_of_append h]
    exact List.takeWhile_append_dropWhile
  rw [← List.append_assoc] at hwhole
  exact List.append_cancel_right ((List.append_cancel_right hwhole).trans hpart.symm)

end

/-! ### Readers of closing marks -/

section

variable {β γ : Type}

/-- `whole` is what a reader finds in a text and `part` what it finds without the `rest` of the
text: the same, or else nothing, as it has to go on into the rest. -/
def ClosesIn (rest : List Char) (part whole : Option (β × List Char)) : Prop :=
  whole = part.map (fun p => (p.1, p.2 ++ rest)) ∨
    part = none ∧ ∀ p, whole = some p → p.2.length < rest.length

variable {rest : List Char} {part whole : Option (β × List Char)}

lemma ClosesIn.map (h : ClosesIn rest part whole) (f : β → γ) :
    ClosesIn rest (part.map fun p => (f p.1, p.2)) (whole.map fun p => (f p.1, p.2)) := by
  rcases h with rfl | ⟨rfl, hlt⟩
  · left
    simp [Function.comp_def]
  · right
    refine ⟨rfl, fun p hp => ?_⟩
    obtain ⟨q, hq, rfl⟩ := Option.map_eq_some_iff.1 hp
    exact hlt q hq

lemma ClosesIn.eq_some (h : ClosesIn rest part whole) {p : β × List Char} (hp : part = some p) :
    whole = some (p.1, p.2 ++ rest) := by
  rcases h with h | ⟨h, -⟩
  · rw [h, hp]
    rfl
  · rw [hp] at h
    cases h

lemma Bounded.of_closesIn {read : List Char → Option (β × List Char)}
    (h : ∀ s rest, ClosesIn rest (read s) (read (s ++ rest))) : Bounded read where
  of_eq_none {s rest} hnone := by
    rcases h s rest with hs | ⟨hs, -⟩
    · rw [hnone] at hs
      exact Option.map_eq_none_iff.1 hs.symm
    · exact hs
  of_eq_some {s rest t r} hsome := by
    rcases h s rest with hs | ⟨-, hlt⟩
    · rw [hsome] at hs
      obtain ⟨⟨u, v⟩, hread, heq⟩ := Option.map_eq_some_iff.1 hs.symm
      obtain ⟨hu, hv⟩ := Prod.mk.inj heq
      dsimp only at hu hv
      rw [hread, hu, List.append_cancel_right hv]
    · -- the closing mark is in the rest, so that less than the rest is left
      have := hlt _ hsome
      simp only [List.length_append] at this
      omega

end

lemma Text.closesIn_close? (s rest : List Char) :
    ClosesIn rest (close? s) (close? (s ++ rest)) := by
  fun_induction close? s with
  | case1 =>
    right
    exact ⟨rfl, fun p hp => length_le_of_close? hp⟩
  | case2 s ih => exact ih.map ('"' :: ·)
  | case3 s =>
    left
    simp [close?]
  | case4 s =>
    left
    simp [close?]
  | case5 c s hescape hq hn ih =>
    cases s with
    | nil =>
      right
      refine ⟨rfl, fun p hp => ?_⟩
      -- what stands before the closing quote begins with `c`
      have htext := Token.escape_append_of_close? hp
      have hne : escape p.1 ≠ [] := by
        intro hnil
        rw [hnil] at htext
        exact hq (List.cons.inj htext).1.symm
      have hpos := List.length_pos_iff.2 hne
      have hlen := congrArg List.length htext
      simp only [List.length_append, List.length_cons, List.length_nil] at hlen
      omega
    | cons d s =>
      have hcut : close? (c :: d :: s ++ rest) =
          (close? (d :: s ++ rest)).map fun p => (c :: p.1, p.2) := by
        rw [List.cons_append, close?, if_neg hq, if_neg hn]
        intro u hc hd
        rw [(List.cons.inj hd).1] at hescape
        exact hescape s hc rfl
      rw [hcut]
      exact ih.map (c :: ·)

namespace Token

lemma closesIn_closeComment? (s rest : List Char) :
    ClosesIn rest (closeComment? s) (closeComment? (s ++ rest)) := by
  have hbehind {c : Char} {p : List Char × List Char} (hp : closeComment? (c :: rest) = some p) :
      p.2.length < rest.length := by
    have hlen := congrArg List.length (closeComment?_eq hp)
    simp only [List.length_append, List.length_cons] at hlen
    omega
  -- where the part ends inside the comment, a star may be its last character
  fun_induction closeComment? s with
  | case1 =>
    right
    refine ⟨rfl, fun p hp => ?_⟩
    have hlen := congrArg List.length (closeComment?_eq hp)
    simp only [List.length_append, List.length_cons, List.nil_append] at hlen
    omega
  | case2 s =>
    left
    rfl
  | case3 s =>
    left
    simp [closeComment?]
  | case4 c s hend hn ih =>
    cases s with
    | nil =>
      right
      exact ⟨rfl, fun p hp => hbehind hp⟩
    | cons d s =>
      have hcut : closeComment? (c :: d :: s ++ rest) =
          (closeComment? (d :: s ++ rest)).map fun p => (c :: p.1, p.2) := by
        rw [List.cons_append, closeComment?, if_neg hn]
        intro u hc hd
        rw [(List.cons.inj hd).1] at hend
        exact hend s hc rfl
      rw [hcut]
      exact ih.map (c :: ·)

/-! ### Numbers -/

lemma unsigned?_eq_none_iff {s : List Char} : unsigned? s = none ↔
    ∀ c r, s = c :: r ∨ s = '.' :: c :: r → c.isDigit = false := by
  have hstart {u : List Char} : u.takeWhile Char.isDigit = [] ↔
      ∀ c r, u = c :: r → c.isDigit = false := by
    cases u with
    | nil => simp
    | cons d u => by_cases hd : d.isDigit <;> simp [hd]
  -- with a point in front the digits have to stand behind it
  fun_cases unsigned? s with
  | case1 u hu =>
    refine iff_of_true rfl ?_
    rintro c r (hc | hc)
    · rw [← (List.cons.inj hc).1]
      rfl
    · exact hstart.1 hu c r (List.cons.inj hc).2
  | case2 u hu =>
    refine iff_of_false (by simp) fun h => hu (hstart.2 fun c r hc => ?_)
    exact h c r (Or.inr (congrArg _ hc))
  | case3 s hs hd =>
    refine iff_of_true rfl ?_
    rintro c r (hc | hc)
    · exact hstart.1 hd c r hc
    · exact (hs _ hc).elim
  | case4 s hs v hd hne =>
    exact iff_of_false (by simp) fun h => hne (hstart.2 fun c r hc => h c r (Or.inl hc))
  | case5 s hs hne hv =>
    exact iff_of_false (by simp) fun h => hne (hstart.2 fun c r hc => h c r (Or.inl hc))

lemma unsigned?_of_append {s rest t r : List Char}
    (h : unsigned? (s ++ rest) = some (t, r ++ rest)) : unsigned? s = some (t, r) := by
  have hs : s = t ++ r := by
    have hsplit := (unsigned?_eq h).1
    rw [← List.append_assoc] at hsplit
    exact (List.append_cancel_right hsplit).symm
  rw [unsigned?_eq_some_iff]
  rcases unsigned?_eq_some_iff.1 h with
    ⟨u, hu, hne, rfl, hr⟩ | ⟨hne, ⟨v, hv, rfl, hr⟩ | ⟨hv, rfl, hr⟩⟩
  · -- the point comes first
    left
    obtain ⟨w, rfl⟩ : ∃ w, s = '.' :: w := ⟨_, hs⟩
    obtain rfl : w ++ rest = u := (List.cons.inj hu).2
    rw [takeWhile_of_append hr.symm] at hne ⊢
    exact ⟨w, rfl, hne, rfl, (dropWhile_of_append hr.symm).symm⟩
  · -- what stands behind the point is left too, so the point is in the part
    right
    obtain ⟨w, rfl⟩ : ∃ w, v = w ++ rest := by
      refine ⟨v.takeWhile Char.isDigit ++ r, ?_⟩
      rw [List.append_assoc, hr, List.takeWhile_append_dropWhile]
    have hpoint : (s ++ rest).dropWhile Char.isDigit = '.' :: w ++ rest := hv
    rw [takeWhile_of_append hpoint] at hne ⊢
    rw [takeWhile_of_append hr.symm]
    exact ⟨hne, Or.inl ⟨w, dropWhile_of_append hpoint, rfl, (dropWhile_of_append hr.symm).symm⟩⟩
  · right
    have hdrop := dropWhile_of_append hr.symm
    rw [takeWhile_of_append hr.symm] at hne ⊢
    refine ⟨hne, Or.inr ⟨fun v hv' => ?_, rfl, hdrop.symm⟩⟩
    rw [hdrop] at hv'
    exact hv (v ++ rest) (by rw [← hr, hv', List.cons_append])

lemma bounded_unsigned? : Bounded unsigned? where
  of_eq_none {s rest} h := by
    rw [unsigned?_eq_none_iff] at h ⊢
    rintro c r (rfl | rfl)
    · exact h c (r ++ rest) (Or.inl rfl)
    · exact h c (r ++ rest) (Or.inr rfl)
  of_eq_some h := unsigned?_of_append h

/-! ### The rules -/

lemma bounded_longest? (p : Char → Bool) : Bounded (longest? p) where
  of_eq_none h := by cases h
  of_eq_some h := by
    obtain ⟨rfl, hdrop⟩ := Prod.mk.inj (Option.some.inj h)
    rw [longest?, takeWhile_of_append hdrop, dropWhile_of_append hdrop]

lemma suffix_of_longest? {p : Char → Bool} {s t r : List Char} (h : longest? p s = some (t, r)) :
    r <:+ s := by
  cases h
  exact List.dropWhile_suffix p

lemma Rule.Reads.bounded {β : Type} {rule : Rule} {W : List Char → Prop}
    {read : List Char → Option (β × List Char)} {f : List Char → β → Token}
    (hrule : rule.Reads W read f) (hread : Bounded read)
    (hsuffix : ∀ {u x r}, read u = some (x, r) → r <:+ u) : Bounded rule where
  of_eq_none {s rest} hnone := by
    rw [Option.eq_none_iff_forall_ne_some]
    intro p hp
    obtain ⟨w, u, x, hw, rfl, hu, -⟩ := hrule.1 hp
    have hmore : read (u ++ rest) ≠ none := by
      intro h
      rw [hread.of_eq_none h] at hu
      cases hu
    obtain ⟨q, hq⟩ := Option.ne_none_iff_exists'.1 hmore
    have hsome := hrule.2 ⟨w, u ++ rest, q.1, hw, List.append_assoc .., hq, rfl⟩
    rw [hnone] at hsome
    cases hsome
  of_eq_some {s rest t r} hsome := by
    obtain ⟨w, u, x, hw, hs, hu, rfl⟩ := hrule.1 hsome
    -- what is left is left behind the word too, so the part goes beyond the word
    obtain ⟨v, rfl⟩ := hsuffix hu
    rw [← List.append_assoc] at hu
    simp only [← List.append_assoc] at hs
    obtain rfl : s = w ++ v ++ r := List.append_cancel_right hs
    exact hrule.2 ⟨w, v ++ r, x, hw, List.append_assoc .., hread.of_eq_some hu, rfl⟩

/-- A rule for tokens that are always spelled the same. -/
lemma bounded_of_spelling {rule : Rule} {P : Token → Prop}
    (hrule : ∀ {s t r}, rule s = some (t, r) ↔ P t ∧ s = t.spelling ++ r) : Bounded rule where
  of_eq_none {s rest} hnone := by
    rw [Option.eq_none_iff_forall_ne_some]
    intro p hp
    obtain ⟨ht, rfl⟩ := hrule.1 hp
    have hsome := hrule.2 ⟨ht, List.append_assoc p.1.spelling p.2 rest⟩
    rw [hnone] at hsome
    cases hsome
  of_eq_some {s rest t r} hsome := by
    obtain ⟨ht, hs⟩ := hrule.1 hsome
    rw [← List.append_assoc] at hs
    exact hrule.2 ⟨ht, List.append_cancel_right hs⟩

lemma bounded_lineComment? : Bounded lineComment? :=
  reads_lineComment?.bounded (bounded_longest? _) suffix_of_longest?

lemma bounded_blockComment? : Bounded blockComment? := by
  refine reads_blockComment?.bounded (.of_closesIn closesIn_closeComment?) fun {u x r} h => ?_
  rw [← closeComment?_eq h]
  exact ⟨x ++ ['*', '/'], by simp⟩

lemma bounded_quoted? : Bounded quoted? := by
  refine reads_quoted?.bounded (.of_closesIn Text.closesIn_close?) fun {u x r} h => ?_
  rw [← escape_append_of_close? h]
  exact ⟨Text.escape x ++ ['"'], by simp⟩

lemma bounded_edgeOperator? : Bounded edgeOperator? := bounded_of_spelling edgeOperator?_eq_some_iff

lemma bounded_identifier? : Bounded identifier? :=
  reads_identifier?.bounded (bounded_longest? _) suffix_of_longest?

lemma bounded_numeral? : Bounded numeral? := by
  refine reads_numeral?.bounded bounded_unsigned? fun {u x r} h => ?_
  rw [← (unsigned?_eq h).1]
  exact List.suffix_append x r

lemma bounded_punctuation? : Bounded punctuation? := bounded_of_spelling punctuation?_eq_some_iff

lemma bounded_blank? : Bounded blank? :=
  reads_blank?.bounded (bounded_longest? _) suffix_of_longest?

lemma bounded_of_mem_rules : ∀ rule ∈ rules, Bounded rule :=
  forall_mem_rules.2 ⟨bounded_lineComment?, bounded_blockComment?, bounded_quoted?,
    bounded_edgeOperator?, bounded_identifier?, bounded_numeral?, bounded_punctuation?,
    bounded_blank?⟩

end Token

end DotDrawing
