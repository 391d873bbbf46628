import DotDrawing.Text.Alphanumeric
import DotDrawing.Token.Basic

/-!
From characters to tokens.

`Token.first` takes the first rule that fits, in a fixed order, and any character is at least an
unknown token. What a rule takes is said once, behind the rule. Main statements: a token and what it
leaves spell the text it was taken from (`first_spelling`), so the tokens of a text spell the text
(`spellings_scan`).
-/

namespace DotDrawing.Token

/-- A rule takes a token off the front of a text, or does not fit it. -/
abbrev Rule := List Char → Option (Token × List Char)

def isWordChar (c : Char) : Bool := Text.isAlphanumeric c || c == '_'

def isLineBlank (c : Char) : Bool := Text.isBlank c && c != '\n'

variable {s r : List Char} {t : Token}

/-- What stands before the end of a block comment and what follows it, on one line. -/
def closeComment? : List Char → Option (List Char × List Char)
  | [] => none
  | '*' :: '/' :: r => some ([], r)
  | c :: r => if c = '\n' then none else (closeComment? r).map fun p => (c :: p.1, p.2)

def lineComment? : Rule
  | '/' :: '/' :: r =>
    some (.lineComment (String.ofList (r.takeWhile (· != '\n'))), r.dropWhile (· != '\n'))
  | _ => none

theorem lineComment?_eq_some_iff : lineComment? s = some (t, r) ↔
    ∃ u, s = '/' :: '/' :: u ∧ t = .lineComment (String.ofList (u.takeWhile (· != '\n'))) ∧
      r = u.dropWhile (· != '\n') := by
  constructor
  · intro h
    unfold lineComment? at h
    split at h <;> cases h
    exact ⟨_, rfl, rfl, rfl⟩
  · rintro ⟨u, rfl, rfl, rfl⟩
    rfl

def blockComment? : Rule
  | '/' :: '*' :: r => (closeComment? r).map fun p => (.blockComment (String.ofList p.1), p.2)
  | _ => none

theorem blockComment?_eq_some_iff : blockComment? s = some (t, r) ↔
    ∃ u text, s = '/' :: '*' :: u ∧ closeComment? u = some (text, r) ∧
      t = .blockComment (String.ofList text) := by
  constructor
  · intro h
    unfold blockComment? at h
    split at h
    · obtain ⟨p, hp, hq⟩ := Option.map_eq_some_iff.1 h
      cases hq
      exact ⟨_, _, rfl, hp, rfl⟩
    · cases h
  · rintro ⟨u, text, rfl, hu, rfl⟩
    rw [blockComment?, hu]
    rfl

def quoted? : Rule
  | '"' :: r => (Text.close? r).map fun p => (.quoted (String.ofList p.1), p.2)
  | _ => none

theorem quoted?_eq_some_iff : quoted? s = some (t, r) ↔
    ∃ u text, s = '"' :: u ∧ Text.close? u = some (text, r) ∧
      t = .quoted (String.ofList text) := by
  constructor
  · intro h
    unfold quoted? at h
    split at h
    · obtain ⟨p, hp, hq⟩ := Option.map_eq_some_iff.1 h
      cases hq
      exact ⟨_, _, rfl, hp, rfl⟩
    · cases h
  · rintro ⟨u, text, rfl, hu, rfl⟩
    rw [quoted?, hu]
    rfl

def edgeOperator? : Rule
  | '-' :: '>' :: r => some (.directedEdge, r)
  | '-' :: '-' :: r => some (.undirectedEdge, r)
  | _ => none

theorem edgeOperator?_eq_some_iff : edgeOperator? s = some (t, r) ↔
    (t = .directedEdge ∨ t = .undirectedEdge) ∧ s = t.spelling ++ r := by
  constructor
  · intro h
    unfold edgeOperator? at h
    split at h <;> cases h
    · exact ⟨Or.inl rfl, rfl⟩
    · exact ⟨Or.inr rfl, rfl⟩
  · rintro ⟨rfl | rfl, rfl⟩ <;> rfl

/-- The longest run of word characters, unless it starts with an ASCII digit. -/
def identifier? : Rule
  | c :: r =>
    if isWordChar c && !c.isDigit then
      some (.identifier (String.ofList (c :: r.takeWhile isWordChar)), r.dropWhile isWordChar)
    else none
  | [] => none

theorem identifier?_eq_some_iff : identifier? s = some (t, r) ↔
    ∃ c u, s = c :: u ∧ isWordChar c ∧ c.isDigit = false ∧
      t = .identifier (String.ofList (c :: u.takeWhile isWordChar)) ∧
        r = u.dropWhile isWordChar := by
  constructor
  · intro h
    unfold identifier? at h
    split at h
    · obtain ⟨hfirst, h⟩ := Option.ite_none_right_eq_some.1 h
      cases h
      simp only [Bool.and_eq_true, Bool.not_eq_true'] at hfirst
      exact ⟨_, _, rfl, hfirst.1, hfirst.2, rfl, rfl⟩
    · cases h
  · rintro ⟨c, u, rfl, hword, hdigit, rfl, rfl⟩
    simp [identifier?, hword, hdigit]

/-- The digits of an unsigned numeral: `.5`, `5`, `5.` or `5.5`. -/
def unsigned? : List Char → Option (List Char × List Char)
  | '.' :: r =>
    match r.takeWhile Char.isDigit with
    | [] => none
    | ds => some ('.' :: ds, r.dropWhile Char.isDigit)
  | s =>
    match s.takeWhile Char.isDigit, s.dropWhile Char.isDigit with
    | [], _ => none
    | ds, '.' :: r =>
      some (ds ++ '.' :: r.takeWhile Char.isDigit, r.dropWhile Char.isDigit)
    | ds, r => some (ds, r)

theorem unsigned?_eq_some_iff {digits : List Char} : unsigned? s = some (digits, r) ↔
    (∃ u, s = '.' :: u ∧ u.takeWhile Char.isDigit ≠ [] ∧
      digits = '.' :: u.takeWhile Char.isDigit ∧ r = u.dropWhile Char.isDigit) ∨
    s.takeWhile Char.isDigit ≠ [] ∧
      ((∃ v, s.dropWhile Char.isDigit = '.' :: v ∧
          digits = s.takeWhile Char.isDigit ++ '.' :: v.takeWhile Char.isDigit ∧
            r = v.dropWhile Char.isDigit) ∨
        (∀ v, s.dropWhile Char.isDigit ≠ '.' :: v) ∧
          digits = s.takeWhile Char.isDigit ∧ r = s.dropWhile Char.isDigit) := by
  constructor
  · intro h
    unfold unsigned? at h
    split at h
    · split at h
      · cases h
      · next hne =>
        cases h
        exact Or.inl ⟨_, rfl, hne, rfl, rfl⟩
    · split at h
      · cases h
      · next hv hne =>
        cases h
        exact Or.inr ⟨hne, Or.inl ⟨_, hv, rfl, rfl⟩⟩
      · next hne hv =>
        cases h
        exact Or.inr ⟨hne, Or.inr ⟨hv, rfl, rfl⟩⟩
  · -- a text that starts with digits does not start with a point
    have hpoint (hne : s.takeWhile Char.isDigit ≠ []) : ∀ u, s = '.' :: u → False := by
      rintro u rfl
      exact hne rfl
    rintro (⟨u, rfl, hne, rfl, rfl⟩ | ⟨hne, ⟨v, hv, rfl, rfl⟩ | ⟨hv, rfl, rfl⟩⟩)
    · simp [unsigned?]
    · rw [unsigned?, hv]
      · simp
      · exact hpoint hne
    · rw [unsigned?]
      · simp
      · exact hpoint hne

def numeral? : Rule
  | '-' :: r => (unsigned? r).map fun p => (.numeral (String.ofList ('-' :: p.1)), p.2)
  | s => (unsigned? s).map fun p => (.numeral (String.ofList p.1), p.2)

theorem numeral?_eq_some_iff : numeral? s = some (t, r) ↔
    ∃ sign u digits, (sign = [] ∨ sign = ['-']) ∧ s = sign ++ u ∧
      unsigned? u = some (digits, r) ∧ t = .numeral (String.ofList (sign ++ digits)) := by
  constructor
  · intro h
    unfold numeral? at h
    split at h
    · obtain ⟨p, hp, hq⟩ := Option.map_eq_some_iff.1 h
      cases hq
      exact ⟨['-'], _, _, Or.inr rfl, rfl, hp, rfl⟩
    · obtain ⟨p, hp, hq⟩ := Option.map_eq_some_iff.1 h
      cases hq
      exact ⟨[], _, _, Or.inl rfl, rfl, hp, rfl⟩
  · rintro ⟨sign, u, digits, rfl | rfl, rfl, hu, rfl⟩
    · rw [List.nil_append, numeral?, hu]
      · rfl
      · -- no number starts with a sign
        rintro v rfl
        cases hu
    · rw [List.singleton_append, numeral?, hu]
      rfl

def punctuation? : Rule
  | '{' :: r => some (.leftBrace, r)
  | '}' :: r => some (.rightBrace, r)
  | '[' :: r => some (.leftBracket, r)
  | ']' :: r => some (.rightBracket, r)
  | ';' :: r => some (.semicolon, r)
  | ',' :: r => some (.comma, r)
  | '=' :: r => some (.equals, r)
  | ':' :: r => some (.colon, r)
  | '\n' :: r => some (.newline, r)
  | _ => none

/-- The tokens that are always the same character. -/
def marks : List Token :=
  [.leftBrace, .rightBrace, .leftBracket, .rightBracket, .semicolon, .comma, .equals, .colon,
    .newline]

theorem length_spelling_of_mem_marks : ∀ t ∈ marks, t.spelling.length = 1 := by decide

theorem punctuation?_eq_some_iff : punctuation? s = some (t, r) ↔
    t ∈ marks ∧ s = t.spelling ++ r := by
  constructor
  · intro h
    unfold punctuation? at h
    split at h <;> cases h <;> exact ⟨by simp [marks], rfl⟩
  · rintro ⟨ht, rfl⟩
    simp only [marks, List.mem_cons, List.not_mem_nil, or_false] at ht
    rcases ht with rfl | rfl | rfl | rfl | rfl | rfl | rfl | rfl | rfl <;> rfl

def blank? : Rule
  | c :: r =>
    if isLineBlank c then
      some (.blank (String.ofList (c :: r.takeWhile isLineBlank)), r.dropWhile isLineBlank)
    else none
  | [] => none

theorem blank?_eq_some_iff : blank? s = some (t, r) ↔
    ∃ c u, s = c :: u ∧ isLineBlank c ∧
      t = .blank (String.ofList (c :: u.takeWhile isLineBlank)) ∧
        r = u.dropWhile isLineBlank := by
  constructor
  · intro h
    unfold blank? at h
    split at h
    · obtain ⟨hfirst, h⟩ := Option.ite_none_right_eq_some.1 h
      cases h
      exact ⟨_, _, rfl, hfirst, rfl, rfl⟩
    · cases h
  · rintro ⟨c, u, rfl, hblank, rfl, rfl⟩
    simp [blank?, hblank]

/-- The rules in the order in which they are tried. -/
def rules : List Rule :=
  [lineComment?, blockComment?, quoted?, edgeOperator?, identifier?, numeral?, punctuation?,
    blank?]

theorem forall_mem_rules {P : Rule → Prop} : (∀ rule ∈ rules, P rule) ↔
    P lineComment? ∧ P blockComment? ∧ P quoted? ∧ P edgeOperator? ∧ P identifier? ∧ P numeral? ∧
      P punctuation? ∧ P blank? := by
  simp [rules]

/-- The first token of a text that starts with `c`, and the text behind it. -/
def first (c : Char) (r : List Char) : Token × List Char :=
  (rules.findSome? fun rule => rule (c :: r)).getD (.unknown c, r)

/-! ### What a rule takes spells what it takes -/

/-- What the rule takes and what it leaves make up the text, and it takes something. -/
def Rule.Faithful (rule : Rule) : Prop :=
  ∀ {s t r}, rule s = some (t, r) → t.spelling ++ r = s ∧ t.spelling ≠ []

theorem closeComment?_eq {s t r : List Char} (h : closeComment? s = some (t, r)) :
    t ++ '*' :: '/' :: r = s := by
  fun_induction closeComment? s generalizing t r with
  | case1 => simp at h
  | case2 s => cases h; rfl
  | case3 => simp at h
  | case4 c s _ _ ih =>
    obtain ⟨p, hp, hq⟩ := Option.map_eq_some_iff.1 h
    cases hq
    simp [ih hp]

theorem escape_append_of_close? {s t r : List Char} (h : Text.close? s = some (t, r)) :
    Text.escape t ++ '"' :: r = s := by
  fun_induction Text.close? s generalizing t r with
  | case1 => simp at h
  | case2 s ih =>
    obtain ⟨p, hp, hq⟩ := Option.map_eq_some_iff.1 h
    cases hq
    simp [Text.escape_cons, ih hp]
  | case3 s => cases h; rfl
  | case4 => simp at h
  | case5 c s _ hc _ ih =>
    obtain ⟨p, hp, hq⟩ := Option.map_eq_some_iff.1 h
    cases hq
    simp [Text.escape_cons, hc, ih hp]

theorem unsigned?_eq {s t r : List Char} (h : unsigned? s = some (t, r)) :
    t ++ r = s ∧ t ≠ [] := by
  rcases unsigned?_eq_some_iff.1 h with
    ⟨u, rfl, -, rfl, rfl⟩ | ⟨hne, ⟨v, hv, rfl, rfl⟩ | ⟨-, rfl, rfl⟩⟩
  · simp [List.takeWhile_append_dropWhile]
  · refine ⟨?_, by simp⟩
    conv => rhs; rw [← List.takeWhile_append_dropWhile (p := Char.isDigit) (l := s), hv]
    simp [List.takeWhile_append_dropWhile]
  · exact ⟨List.takeWhile_append_dropWhile, hne⟩

theorem faithful_lineComment? : Rule.Faithful lineComment? := by
  intro s t r h
  obtain ⟨u, rfl, rfl, rfl⟩ := lineComment?_eq_some_iff.1 h
  simp [spelling, List.takeWhile_append_dropWhile]

theorem faithful_blockComment? : Rule.Faithful blockComment? := by
  intro s t r h
  obtain ⟨u, text, rfl, hu, rfl⟩ := blockComment?_eq_some_iff.1 h
  simpa [spelling] using closeComment?_eq hu

theorem faithful_quoted? : Rule.Faithful quoted? := by
  intro s t r h
  obtain ⟨u, text, rfl, hu, rfl⟩ := quoted?_eq_some_iff.1 h
  simpa [spelling, Text.quote] using escape_append_of_close? hu

theorem faithful_edgeOperator? : Rule.Faithful edgeOperator? := by
  intro s t r h
  obtain ⟨rfl | rfl, rfl⟩ := edgeOperator?_eq_some_iff.1 h <;> simp [spelling]

theorem faithful_identifier? : Rule.Faithful identifier? := by
  intro s t r h
  obtain ⟨c, u, rfl, -, -, rfl, rfl⟩ := identifier?_eq_some_iff.1 h
  simp [spelling, List.takeWhile_append_dropWhile]

theorem faithful_numeral? : Rule.Faithful numeral? := by
  intro s t r h
  obtain ⟨sign, u, digits, -, rfl, hu, rfl⟩ := numeral?_eq_some_iff.1 h
  simp [spelling, unsigned?_eq hu]

theorem faithful_punctuation? : Rule.Faithful punctuation? := by
  intro s t r h
  obtain ⟨ht, rfl⟩ := punctuation?_eq_some_iff.1 h
  refine ⟨rfl, List.length_pos_iff.1 ?_⟩
  rw [length_spelling_of_mem_marks t ht]
  exact Nat.zero_lt_one

theorem faithful_blank? : Rule.Faithful blank? := by
  intro s t r h
  obtain ⟨c, u, rfl, -, rfl, rfl⟩ := blank?_eq_some_iff.1 h
  simp [spelling, List.takeWhile_append_dropWhile]

theorem faithful_of_mem_rules : ∀ rule ∈ rules, rule.Faithful :=
  forall_mem_rules.2 ⟨faithful_lineComment?, faithful_blockComment?, faithful_quoted?,
    faithful_edgeOperator?, faithful_identifier?, faithful_numeral?, faithful_punctuation?,
    faithful_blank?⟩

theorem first_spelling (c : Char) (r : List Char) :
    (first c r).1.spelling ++ (first c r).2 = c :: r ∧ (first c r).1.spelling ≠ [] := by
  unfold first
  cases h : rules.findSome? fun rule => rule (c :: r) with
  | none => simp [spelling]
  | some p =>
    obtain ⟨rule, hmem, hrule⟩ := List.exists_of_findSome?_eq_some h
    exact faithful_of_mem_rules rule hmem hrule

theorem length_first_lt (c : Char) (r : List Char) :
    (first c r).2.length < (c :: r).length := by
  obtain ⟨h, hne⟩ := first_spelling c r
  have := congrArg List.length h
  have := List.length_pos_iff.2 hne
  simp only [List.length_append] at *
  omega

/-! ### The tokens of a text -/

/-- The tokens of a text, from its first character to its last. -/
def scan : List Char → List Token
  | [] => []
  | c :: r => (first c r).1 :: scan (first c r).2
  termination_by s => s.length
  decreasing_by exact length_first_lt c r

def ofString (s : String) : List Token := scan s.toList

@[simp] theorem scan_nil : scan [] = [] := by simp [scan]

theorem scan_cons (c : Char) (r : List Char) :
    scan (c :: r) = (first c r).1 :: scan (first c r).2 := by
  rw [scan]

theorem spellings_scan (s : List Char) : spellings (scan s) = s := by
  fun_induction scan s with
  | case1 => rfl
  | case2 c r ih => rw [spellings_cons, ih, (first_spelling c r).1]

end DotDrawing.Token
