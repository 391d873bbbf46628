import DotDrawing.Proofs.Statement.Grammar
import DotDrawing.Proofs.Token.Lines
import DotDrawing.Proofs.Token.Tidy

/-!
The texts that tokens spell.

No id has a line break in it (`newline_notMem_of_id?`). An id without quotes is not empty and has no
white space at its ends (`tight_of_id?`), and where it can name a node it is no keyword
(`not_sameWord_of_free`). The source text of a run is trimmed and stays on its line.
-/

namespace DotDrawing

/-! ### Trimmed texts -/

namespace Text

/-- The text has no white space at its ends. -/
def Tight (cs : List Char) : Prop :=
  (∀ c ∈ cs.head?, isBlank c = false) ∧ ∀ c ∈ cs.getLast?, isBlank c = false

lemma head?_dropWhile_isBlank {cs : List Char} {c : Char} (h : c ∈ (cs.dropWhile isBlank).head?) :
    isBlank c = false := by
  have hstop := List.head?_dropWhile_not isBlank cs
  rw [Option.mem_def.1 h] at hstop
  exact hstop

lemma tight_trim (cs : List Char) : Tight (trim cs) := by
  constructor
  · intro c hc
    -- trimming the end leaves a front part
    obtain ⟨e, he, -⟩ := exists_eq_trimEnd_append (trimStart cs)
    have hstart : c ∈ (trimStart cs).head? := by
      rw [he, List.head?_append, ← trim, Option.mem_def.1 hc]
      rfl
    exact head?_dropWhile_isBlank hstart
  · intro c hc
    rw [trim, trimEnd, List.getLast?_reverse] at hc
    exact head?_dropWhile_isBlank hc

lemma newline_mem_escape {cs : List Char} (h : '\n' ∈ cs) : '\n' ∈ escape cs := by
  induction cs with
  | nil => cases h
  | cons c cs ih =>
    rw [escape_cons]
    rcases List.mem_cons.1 h with rfl | h
    · simp
    · split <;> simp [ih h]

end Text

namespace Token

variable {s : List Char} {t : Token} {ts : List Token} {id : String}

/-! ### Ids -/

lemma spelling_of_id? (h : t.id? = some id) :
    t = .quoted id ∨ (∀ text, t ≠ .quoted text) ∧ t.spelling = id.toList := by
  cases t <;> simp_all [id?, spelling]

lemma quoted_notMem {s : String} (h : '"' ∉ s.toList) (text : String) :
    .quoted text ∉ ofString s := by
  intro ht
  have hm : '"' ∈ spellings (ofString s) :=
    List.mem_flatMap.2 ⟨_, ht, by simp [spelling, Text.quote]⟩
  rw [ofString, spellings_scan] at hm
  exact h hm

lemma newline_notMem_of_id? (ht : t ∈ scan s) (h : t.id? = some id) : '\n' ∉ id.toList := by
  have hn : t ≠ .newline := by
    rintro rfl
    cases h
  have hspell := newline_notMem_spelling ht hn
  rcases spelling_of_id? h with rfl | ⟨-, heq⟩
  · intro hm
    exact hspell (by simp [spelling, Text.quote, Text.newline_mem_escape hm])
  · rwa [heq] at hspell

lemma endsVisibly_of_mem_scan (ht : t ∈ scan s) :
    t = .newline ∨ (∃ text, t = .blank text) ∨ EndsVisibly t := by
  obtain ⟨c, r, rfl⟩ := exists_first_of_mem_scan ht
  by_cases hc : Text.isBlank c
  · exact (first_of_isBlank hc r).imp_right Or.inl
  · exact Or.inr (Or.inr (endsVisibly_first (Bool.not_eq_true _ ▸ hc) r))

lemma tight_of_id? (ht : t ∈ scan s) (h : t.id? = some id) (hq : ∀ text, t ≠ .quoted text) :
    id ≠ "" ∧ Text.Tight id.toList := by
  obtain ⟨-, hspell⟩ := (spelling_of_id? h).resolve_left (hq id)
  have hn : t ≠ .newline := by
    rintro rfl
    cases h
  have hb : ¬ ∃ text, t = .blank text := by
    rintro ⟨text, rfl⟩
    cases h
  obtain ⟨c, r, hstart, hc⟩ := ((starts_of_mem_scan ht).resolve_left hn).resolve_left hb
  have hend : ∃ cs d, t.spelling = cs ++ [d] ∧ Text.isBlank d = false := by
    refine (((endsVisibly_of_mem_scan ht).resolve_left hn).resolve_left hb).resolve_left ?_
    rintro ⟨text, rfl⟩
    cases h
  -- the first and the last character of the token are those of the id
  obtain ⟨cs, d, hend, hd⟩ := hend
  rw [hspell] at hstart hend
  refine ⟨?_, ?_, ?_⟩
  · rintro rfl
    cases hstart
  · rw [hstart]
    simpa using hc
  · rw [hend]
    simpa using hd

/-! ### Ids that are no keywords -/

lemma numeral?_of_mem_rules {digits : String} {r : List Char} : ∀ rule ∈ rules,
    rule s = some (.numeral digits, r) → numeral? s = some (.numeral digits, r) := by
  refine forall_mem_rules.2 ⟨?_, ?_, ?_, ?_, ?_, id, ?_, ?_⟩
  all_goals intro h
  · obtain ⟨_, -, ht, -⟩ := lineComment?_eq_some_iff.1 h
    cases ht
  · obtain ⟨_, _, -, -, ht⟩ := blockComment?_eq_some_iff.1 h
    cases ht
  · obtain ⟨_, _, -, -, ht⟩ := quoted?_eq_some_iff.1 h
    cases ht
  · obtain ⟨ht | ht, -⟩ := edgeOperator?_eq_some_iff.1 h <;> cases ht
  · obtain ⟨_, _, -, -, -, ht, -⟩ := identifier?_eq_some_iff.1 h
    cases ht
  · obtain ⟨ht, -⟩ := punctuation?_eq_some_iff.1 h
    simp [marks] at ht
  · obtain ⟨_, _, -, -, ht, -⟩ := blank?_eq_some_iff.1 h
    cases ht

lemma mem_numeral {digits : String} (ht : .numeral digits ∈ scan s) :
    ∀ c ∈ digits.toList, (c.isDigit ∨ c = '.') ∨ c = '-' := by
  obtain ⟨c, r, hfirst⟩ := exists_first_of_mem_scan ht
  rcases first_cases c r with h | ⟨rule, hmem, hrule⟩
  · rw [h] at hfirst
    cases hfirst
  · rw [← Prod.eta (first c r), ← hfirst] at hrule
    exact mem_numeral? (numeral?_of_mem_rules rule hmem hrule)

lemma toLower_of_isDigit {c : Char} (h : (c.isDigit ∨ c = '.') ∨ c = '-') : c.toLower = c := by
  rcases h with (h | rfl) | rfl
  · have hupper : ¬ (c.val ≥ 'A'.val ∧ c.val ≤ 'Z'.val) := by
      simp only [Char.isDigit, Bool.and_eq_true, decide_eq_true_eq] at h
      rintro ⟨hA, -⟩
      exact absurd (UInt32.le_trans hA h.2) (by decide)
    exact dif_neg hupper
  · rfl
  · rfl

lemma not_sameWord_numeral {digits : String} (ht : .numeral digits ∈ scan s) (k : Keyword) :
    ¬ Text.sameWord k.word digits := by
  have hall := mem_numeral ht
  intro h
  simp only [Text.sameWord, beq_iff_eq] at h
  have hlower : digits.toList.map Char.toLower = digits.toList.map id :=
    List.map_congr_left fun c hc => toLower_of_isDigit (hall c hc)
  rw [hlower, List.map_id] at h
  have hword : (k.word.toList.map Char.toLower).all fun c => (c.isDigit || c == '.') || c == '-' := by
    rw [h]
    simpa using hall
  revert hword
  cases k <;> decide

lemma not_sameWord_of_free (ht : t ∈ scan s) (h : t.Free id) (hq : ∀ text, t ≠ .quoted text)
    (k : Keyword) : ¬ Text.sameWord k.word id := by
  cases h with
  | identifier h => exact h k
  | numeral => exact not_sameWord_numeral ht k
  | quoted => exact absurd rfl (hq id)

/-! ### The source text of a run -/

lemma tight_sourceText (ts : List Token) : Text.Tight (sourceText ts).toList := by
  rw [sourceText, String.toList_ofList]
  exact Text.tight_trim _

lemma newline_notMem_sourceText (hts : ts ⊆ scan s) (hn : .newline ∉ ts) :
    '\n' ∉ (sourceText ts).toList := by
  rw [sourceText, String.toList_ofList]
  refine Text.newline_notMem_trim fun hm => ?_
  obtain ⟨t, ht, hm⟩ := List.mem_flatMap.1 hm
  exact newline_notMem_spelling (hts ht) (fun he => hn (he ▸ ht)) hm

end Token

end DotDrawing
