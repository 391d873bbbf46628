import DotDrawing.Proofs.Token.Scan
import Mathlib.Data.List.Basic
import Mathlib.Data.List.Chain

/-!
What the tokens of a text end with.

A token that does not start with white space does not end with it, line comments apart
(`endsVisibly_first`), and a line comment runs to the end of its line (`commentsEndLines_scan`).
-/

namespace DotDrawing.Token

/-! ### The last character of a token -/

/-- The token is a line comment, or its last character is not blank. -/
def EndsVisibly (t : Token) : Prop :=
  (∃ text, t = .lineComment text) ∨ ∃ cs d, t.spelling = cs ++ [d] ∧ Text.isBlank d = false

/-- The rule takes no token that ends with white space from a text that does not start with it,
line comments apart. -/
def Rule.EndsVisibly (rule : Rule) : Prop :=
  ∀ {c s t r}, Text.isBlank c = false → rule (c :: s) = some (t, r) → t.EndsVisibly

lemma endsVisibly_of_forall {t : Token} (hne : t.spelling ≠ [])
    (h : ∀ c ∈ t.spelling, Text.isBlank c = false) : EndsVisibly t := by
  obtain ⟨cs, d, hcs⟩ := (List.eq_nil_or_concat' t.spelling).resolve_left hne
  exact Or.inr ⟨cs, d, hcs, h d (by simp [hcs])⟩

lemma endsVisibly_lineComment? : Rule.EndsVisibly lineComment? := by
  intro c s t r _ h
  obtain ⟨u, -, ht, -⟩ := lineComment?_eq_some_iff.1 h
  exact Or.inl ⟨_, ht⟩

lemma endsVisibly_blockComment? : Rule.EndsVisibly blockComment? := by
  intro c s t r _ h
  obtain ⟨u, text, -, -, rfl⟩ := blockComment?_eq_some_iff.1 h
  exact Or.inr ⟨'/' :: '*' :: (text ++ ['*']), '/', by simp [spelling], rfl⟩

lemma endsVisibly_quoted? : Rule.EndsVisibly quoted? := by
  intro c s t r _ h
  obtain ⟨u, text, -, -, rfl⟩ := quoted?_eq_some_iff.1 h
  exact Or.inr ⟨'"' :: Text.escape text, '"', by simp [spelling, Text.quote], rfl⟩

lemma endsVisibly_edgeOperator? : Rule.EndsVisibly edgeOperator? := by
  intro c s t r _ h
  obtain ⟨rfl | rfl, -⟩ := edgeOperator?_eq_some_iff.1 h
  · exact Or.inr ⟨['-'], '>', rfl, rfl⟩
  · exact Or.inr ⟨['-'], '-', rfl, rfl⟩

lemma mem_identifier? {s r : List Char} {t : Token} (h : identifier? s = some (t, r)) :
    ∀ c ∈ t.spelling, isWordChar c := by
  obtain ⟨d, u, -, hword, -, rfl, -⟩ := identifier?_eq_some_iff.1 h
  rw [spelling, String.toList_ofList]
  exact List.forall_mem_cons.2 ⟨hword, fun c hc => List.mem_takeWhile_imp hc⟩

lemma endsVisibly_identifier? : Rule.EndsVisibly identifier? := by
  intro c s t r _ h
  refine endsVisibly_of_forall (faithful_identifier? h).2 fun d hd => ?_
  have hword := mem_identifier? h d hd
  by_contra hb
  rw [Bool.not_eq_false] at hb
  rw [not_isWordChar_of_isBlank hb] at hword
  cases hword

lemma isDigit_or_of_mem_unsigned? {s t r : List Char} (h : unsigned? s = some (t, r)) :
    ∀ c ∈ t, c.isDigit ∨ c = '.' := by
  have htake {u : List Char} : ∀ c ∈ u.takeWhile Char.isDigit, c.isDigit ∨ c = '.' := fun c hc =>
    Or.inl (List.mem_takeWhile_imp hc)
  rcases unsigned?_eq_some_iff.1 h with
    ⟨u, -, -, rfl, -⟩ | ⟨-, ⟨v, -, rfl, -⟩ | ⟨-, rfl, -⟩⟩
  · exact List.forall_mem_cons.2 ⟨Or.inr rfl, htake⟩
  · exact List.forall_mem_append.2 ⟨htake, List.forall_mem_cons.2 ⟨Or.inr rfl, htake⟩⟩
  · exact htake

lemma mem_numeral? {s r : List Char} {t : Token} (h : numeral? s = some (t, r)) :
    ∀ c ∈ t.spelling, (c.isDigit ∨ c = '.') ∨ c = '-' := by
  obtain ⟨sign, u, digits, hsign, -, hu, rfl⟩ := numeral?_eq_some_iff.1 h
  intro c hc
  rw [spelling, String.toList_ofList, List.mem_append] at hc
  rcases hc with hc | hc
  · rcases hsign with rfl | rfl
    · cases hc
    · exact Or.inr (List.mem_singleton.1 hc)
  · exact Or.inl (isDigit_or_of_mem_unsigned? hu c hc)

lemma endsVisibly_numeral? : Rule.EndsVisibly numeral? := by
  intro c s t r _ h
  refine endsVisibly_of_forall (faithful_numeral? h).2 fun d hd => ?_
  by_contra hb
  rw [Bool.not_eq_false] at hb
  rcases mem_numeral? h d hd with (hd | rfl) | rfl
  · rw [not_isDigit_of_isBlank hb] at hd
    cases hd
  · cases hb
  · cases hb

lemma endsVisibly_punctuation? : Rule.EndsVisibly punctuation? := by
  intro c s t r hc h
  obtain ⟨ht, hs⟩ := punctuation?_eq_some_iff.1 h
  -- the one character of the mark is the first one of the text
  obtain ⟨d, hd⟩ := List.length_eq_one_iff.1 (length_spelling_of_mem_marks t ht)
  rw [hd] at hs
  obtain ⟨rfl, -⟩ := List.cons.inj hs
  exact Or.inr ⟨[], c, hd, hc⟩

lemma endsVisibly_blank? : Rule.EndsVisibly blank? := by
  intro c s t r hc h
  obtain ⟨d, u, hs, hblank, -⟩ := blank?_eq_some_iff.1 h
  obtain ⟨rfl, -⟩ := List.cons.inj hs
  rw [isLineBlank, hc] at hblank
  cases hblank

lemma endsVisibly_of_mem_rules : ∀ rule ∈ rules, rule.EndsVisibly :=
  forall_mem_rules.2 ⟨endsVisibly_lineComment?, endsVisibly_blockComment?, endsVisibly_quoted?,
    endsVisibly_edgeOperator?, endsVisibly_identifier?, endsVisibly_numeral?,
    endsVisibly_punctuation?, endsVisibly_blank?⟩

lemma first_cases (c : Char) (r : List Char) :
    first c r = (.unknown c, r) ∨ ∃ rule ∈ rules, rule (c :: r) = some (first c r) := by
  unfold first
  cases h : rules.findSome? fun rule => rule (c :: r) with
  | none => exact Or.inl rfl
  | some p => exact Or.inr (List.exists_of_findSome?_eq_some h)

lemma endsVisibly_first {c : Char} (hc : Text.isBlank c = false) (r : List Char) :
    EndsVisibly (first c r).1 := by
  rcases first_cases c r with h | ⟨rule, hmem, hrule⟩
  · rw [h]
    exact Or.inr ⟨[], c, rfl, hc⟩
  · exact endsVisibly_of_mem_rules rule hmem hc hrule

/-! ### Comments that end lines -/

lemma first_lineComment (r : List Char) : first '/' ('/' :: r) =
    (.lineComment (String.ofList (r.takeWhile (· != '\n'))), r.dropWhile (· != '\n')) := rfl

lemma scan_lineComment {r : List Char} (hr : '\n' ∉ r) :
    scan ('/' :: '/' :: r) = [.lineComment (String.ofList r)] := by
  have hall : ∀ c ∈ r, (c != '\n') = true := by
    intro c hc
    simp only [bne_iff_ne, ne_eq]
    rintro rfl
    exact hr hc
  rw [scan_cons, first_lineComment, List.takeWhile_eq_self_iff.2 hall,
    List.dropWhile_eq_nil_iff.2 hall, scan_nil]

/-- Behind a line comment stands a newline, or nothing. -/
def CommentsEndLines (ts : List Token) : Prop :=
  ts.IsChain fun t u => (∃ text, t = .lineComment text) → u = .newline

lemma commentsEndLines_scan (s : List Char) : CommentsEndLines (scan s) := by
  fun_induction scan s with
  | case1 => exact .nil
  | case2 c r ih =>
    refine List.isChain_cons.2 ⟨?_, ih⟩
    rintro u hu ⟨text, hfirst⟩
    have hspell := (first_spelling c r).1
    rw [hfirst, spelling, List.cons_append, List.cons_append] at hspell
    obtain ⟨rfl, hr⟩ := List.cons.inj hspell
    generalize text.toList ++ (first _ r).2 = w at hr
    -- what the comment leaves is nothing, or starts with the line break
    rw [← hr, first_lineComment] at hu
    have hstop := List.head?_dropWhile_not (· != '\n') w
    cases hw : w.dropWhile (· != '\n') with
    | nil => simp [hw] at hu
    | cons d w =>
      simp only [hw, List.head?_cons, bne_eq_false_iff_eq] at hstop
      rw [hw, hstop, scan_cons] at hu
      exact (Option.some.inj hu).symm

end DotDrawing.Token
