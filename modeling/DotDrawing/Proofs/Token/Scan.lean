import DotDrawing.Token.Lexer
import Mathlib.Data.List.TakeWhile

/-!
What the tokens of a text begin with.

A blank character starts white space or a newline and nothing else, so a run of tokens on one line
whose source text is empty holds nothing but white space (`isTrivia_of_sourceText_eq_empty`).
-/

namespace DotDrawing

namespace Text

/-- The blank characters outside ASCII, in ranges with both ends included. -/
def blankRanges : List (Nat × Nat) :=
  [(0x85, 0x85), (0xA0, 0xA0), (0x1680, 0x1680), (0x2000, 0x200A), (0x2028, 0x2029),
    (0x202F, 0x202F), (0x205F, 0x205F), (0x3000, 0x3000)]

lemma blankRanges_disjoint :
    ∀ b ∈ blankRanges, ∀ r ∈ alphanumericRanges, r.2 < b.1 ∨ b.2 < r.1 := by
  decide +kernel

lemma isBlank_iff {c : Char} : isBlank c ↔ c.toNat ∈ [9, 10, 11, 12, 13, 32] ∨
    ∃ b ∈ blankRanges, b.1 ≤ c.toNat ∧ c.toNat ≤ b.2 := by
  simp only [isBlank, Bool.or_eq_true, Bool.and_eq_true, decide_eq_true_eq, beq_iff_eq,
    blankRanges, List.mem_cons, List.not_mem_nil, or_false, exists_eq_or_imp, exists_eq_left]
  omega

lemma lt_of_isAlphanum {c : Char} (h : c.isAlphanum) : 32 < c.toNat ∧ c.toNat < 0x80 := by
  have h : (decide (65 ≤ c.val ∧ c.val ≤ 90) || (decide (97 ≤ c.val) && decide (c.val ≤ 122)) ||
      (decide (48 ≤ c.val) && decide (c.val ≤ 57))) = true := h
  simp only [Bool.or_eq_true, Bool.and_eq_true, decide_eq_true_eq, UInt32.le_iff_toNat_le] at h
  have hc : c.toNat = c.val.toNat := rfl
  simp at h
  omega

lemma not_isAlphanum_of_isBlank {c : Char} (h : isBlank c) : c.isAlphanum = false := by
  rw [Bool.eq_false_iff]
  intro ha
  have hlt := lt_of_isAlphanum ha
  rcases isBlank_iff.1 h with hm | ⟨b, hb, hlo, -⟩
  · simp only [List.mem_cons, List.not_mem_nil, or_false] at hm
    omega
  · have : ∀ b ∈ blankRanges, 0x80 ≤ b.1 := by decide
    have := this b hb
    omega

lemma not_isAlphanumeric_of_isBlank {c : Char} (h : isBlank c) : isAlphanumeric c = false := by
  unfold isAlphanumeric
  split
  · exact not_isAlphanum_of_isBlank h
  · next hc =>
    rcases isBlank_iff.1 h with hm | ⟨b, hb, hlo, hhi⟩
    · simp only [List.mem_cons, List.not_mem_nil, or_false] at hm
      omega
    · rw [List.any_eq_false]
      intro r hr
      have := blankRanges_disjoint b hb r hr
      simp only [Bool.and_eq_true, decide_eq_true_eq]
      omega

end Text

namespace Token

open Text

lemma not_isWordChar_of_isBlank {c : Char} (h : isBlank c) : isWordChar c = false := by
  have hc : c ≠ '_' := by rintro rfl; exact absurd h (by decide)
  simp [isWordChar, not_isAlphanumeric_of_isBlank h, hc]

lemma not_isDigit_of_isBlank {c : Char} (h : isBlank c) : c.isDigit = false := by
  have := not_isAlphanum_of_isBlank h
  simp only [Char.isAlphanum, Bool.or_eq_false_iff] at this
  exact this.2

lemma first_of_isLineBlank {c : Char} (h : isLineBlank c) (r : List Char) :
    first c r =
      (.blank (String.ofList (c :: r.takeWhile isLineBlank)), r.dropWhile isLineBlank) := by
  have hb : isBlank c ∧ c ≠ '\n' := by simpa [isLineBlank] using h
  have ne {d : Char} (hd : isBlank d = false) : c ≠ d := by
    rintro rfl; simp [hd] at hb
  have hlineComment : lineComment? (c :: r) = none := by simp [lineComment?, ne (d := '/') rfl]
  have hblockComment : blockComment? (c :: r) = none := by
    simp [blockComment?, ne (d := '/') rfl]
  have hquoted : quoted? (c :: r) = none := by simp [quoted?, ne (d := '"') rfl]
  have hedgeOperator : edgeOperator? (c :: r) = none := by
    simp [edgeOperator?, ne (d := '-') rfl]
  have hidentifier : identifier? (c :: r) = none := by
    simp [identifier?, not_isWordChar_of_isBlank hb.1]
  have hnumeral : numeral? (c :: r) = none := by
    simp [numeral?, unsigned?, ne (d := '-') rfl, ne (d := '.') rfl, not_isDigit_of_isBlank hb.1]
  have hpunctuation : punctuation? (c :: r) = none := by
    simp [punctuation?, ne (d := '{') rfl, ne (d := '}') rfl, ne (d := '[') rfl,
      ne (d := ']') rfl, ne (d := ';') rfl, ne (d := ',') rfl, ne (d := '=') rfl,
      ne (d := ':') rfl, hb.2]
  -- no rule in front of the one for white space fits
  simp [first, rules, hlineComment, hblockComment, hquoted, hedgeOperator, hidentifier, hnumeral,
    hpunctuation, blank?, h]

lemma first_of_isBlank {c : Char} (h : isBlank c) (r : List Char) :
    (first c r).1 = .newline ∨ ∃ text, (first c r).1 = .blank text := by
  by_cases hn : c = '\n'
  · subst hn
    exact Or.inl rfl
  · rw [first_of_isLineBlank (by simp [isLineBlank, h, hn]) r]
    exact Or.inr ⟨_, rfl⟩

lemma exists_first_of_mem_scan {s : List Char} {t : Token} (ht : t ∈ scan s) :
    ∃ c r, t = (first c r).1 := by
  fun_induction scan s with
  | case1 => cases ht
  | case2 c r ih =>
    rcases List.mem_cons.1 ht with rfl | ht
    · exact ⟨c, r, rfl⟩
    · exact ih ht

lemma starts_of_mem_scan {s : List Char} {t : Token} (ht : t ∈ scan s) :
    t = .newline ∨ (∃ text, t = .blank text) ∨
      ∃ c r, t.spelling = c :: r ∧ isBlank c = false := by
  obtain ⟨c, r, rfl⟩ := exists_first_of_mem_scan ht
  by_cases hc : isBlank c
  · exact (first_of_isBlank hc r).imp_right Or.inl
  · obtain ⟨heq, hne⟩ := first_spelling c r
    obtain ⟨d, u, hd⟩ := List.exists_cons_of_ne_nil hne
    rw [hd, List.cons_append, List.cons.injEq] at heq
    exact Or.inr (Or.inr ⟨d, u, hd, by simpa [heq.1] using hc⟩)

end Token

namespace Text

lemma trim_eq_nil_iff {cs : List Char} : trim cs = [] ↔ ∀ c ∈ cs, isBlank c := by
  have hd : cs.dropWhile isBlank = [] ↔ ∀ c ∈ cs.dropWhile isBlank, isBlank c := by
    cases h : cs.dropWhile isBlank with
    | nil => simp
    | cons c r =>
      have := List.head?_dropWhile_not isBlank cs
      simp_all
  have h : trim cs = [] ↔ cs.dropWhile isBlank = [] := by
    rw [hd]
    simp [trim, trimEnd, trimStart, List.dropWhile_eq_nil_iff]
  rw [h, List.dropWhile_eq_nil_iff]

end Text

namespace Token

lemma isTrivia_of_sourceText_eq_empty {s : List Char} {ts : List Token}
    (hs : ∀ t ∈ ts, t ∈ scan s) (hn : Token.newline ∉ ts) (h : sourceText ts = "") :
    ∀ t ∈ ts, t.isTrivia := by
  intro t ht
  have hb : ∀ c ∈ spellings ts, Text.isBlank c := by
    rw [← Text.trim_eq_nil_iff]
    simpa [sourceText] using h
  rcases starts_of_mem_scan (hs t ht) with rfl | ⟨text, rfl⟩ | ⟨c, r, hc, hcb⟩
  · exact absurd ht hn
  · rfl
  · have : c ∈ spellings ts := List.mem_flatMap.2 ⟨t, ht, by simp [hc]⟩
    simp [hb c this] at hcb

end Token

end DotDrawing
