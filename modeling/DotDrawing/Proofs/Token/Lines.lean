import DotDrawing.Proofs.Token.Scan
import DotDrawing.Token.Span
import Mathlib.Data.List.Basic

/-!
Tokens line by line.

In front of a line break a rule does what it does at the end of the text, however far it looks for
a closing mark (`Rule.LineLocal`). So the tokens of a text are those of its lines with newlines
between them, each where its line stands. Main statement: `located_append_newline`.
-/

namespace DotDrawing

/-! ### Lines -/

lemma infix_and_forall_of_mem_splitOnP {α : Type} {p : α → Bool} {xs part : List α}
    (h : part ∈ xs.splitOnP p) : part <:+: xs ∧ ∀ x ∈ part, p x = false := by
  -- the first part stands at the front, so that it goes on with one more value there
  have hall : ∃ first parts, xs.splitOnP p = first :: parts ∧
      (first <+: xs ∧ ∀ x ∈ first, p x = false) ∧
      ∀ part ∈ parts, part <:+: xs ∧ ∀ x ∈ part, p x = false := by
    clear h
    induction xs with
    | nil => exact ⟨[], [], rfl, ⟨List.prefix_rfl, by simp⟩, by simp⟩
    | cons x xs ih =>
      obtain ⟨first, parts, hparts, ⟨hfirst, hnone⟩, hmore⟩ := ih
      have hrest : ∀ part ∈ parts, part <:+: x :: xs ∧ ∀ x ∈ part, p x = false :=
        fun part hpart => (hmore part hpart).imp_left List.infix_cons
      rw [List.splitOnP_cons_eq_if_modifyHead, hparts]
      split
      · exact ⟨[], first :: parts, rfl, ⟨List.nil_prefix, by simp⟩,
          List.forall_mem_cons.2 ⟨⟨List.infix_cons hfirst.isInfix, hnone⟩, hrest⟩⟩
      · next hx =>
        exact ⟨x :: first, parts, rfl, ⟨(List.prefix_cons_inj x).2 hfirst,
          List.forall_mem_cons.2 ⟨Bool.eq_false_iff.2 hx, hnone⟩⟩, hrest⟩
  obtain ⟨first, parts, hparts, ⟨hfirst, hnone⟩, hmore⟩ := hall
  rw [hparts] at h
  rcases List.mem_cons.1 h with rfl | h
  · exact ⟨hfirst.isInfix, hnone⟩
  · exact hmore part h

lemma mem_of_mem_splitOn {α : Type} [DecidableEq α] {x : α} {as part : List α}
    (h : part ∈ as.splitOn x) : x ∉ part ∧ ∀ a ∈ part, a ∈ as := by
  rw [List.splitOn_eq_splitOnP] at h
  obtain ⟨hpart, hnone⟩ := infix_and_forall_of_mem_splitOnP h
  exact ⟨fun hx => by simpa using hnone x hx, hpart.subset⟩

/-! ### Readers in front of a line break -/

section

variable {p : Char → Bool} (hp : p '\n' = false) (s rest : List Char)

include hp

lemma takeWhile_append_newline : (s ++ '\n' :: rest).takeWhile p = s.takeWhile p := by
  induction s with
  | nil => simp [hp]
  | cons c s ih => by_cases hc : p c <;> simp [hc, ih]

lemma dropWhile_append_newline :
    (s ++ '\n' :: rest).dropWhile p = s.dropWhile p ++ '\n' :: rest := by
  induction s with
  | nil => simp [hp]
  | cons c s ih => by_cases hc : p c <;> simp [hc, ih]

end

lemma append_newline_ne_append (w : List Char) (hw : '\n' ∉ w) {s : List Char}
    (h : ∀ r, s = w ++ r → False) (rest : List Char) :
    ∀ r, s ++ '\n' :: rest = w ++ r → False := by
  intro r hr
  induction w generalizing s with
  | nil => exact h s rfl
  | cons c w ih =>
    simp only [List.mem_cons, not_or] at hw
    cases s with
    | nil => exact hw.1 (List.cons.inj hr).1
    | cons d s =>
      obtain ⟨hd, hs⟩ := List.cons.inj hr
      exact ih hw.2 (fun r hr => h r (by rw [hd, hr, List.cons_append])) hs

/-- What a reader takes, and what it leaves with a line break and more lines behind it. -/
def withLines {α : Type} (rest : List Char) (p : α × List Char) : α × List Char :=
  (p.1, p.2 ++ '\n' :: rest)

lemma Text.close?_append_newline (s rest : List Char) :
    close? (s ++ '\n' :: rest) = (close? s).map (withLines rest) := by
  fun_induction close? s with
  | case1 => rfl
  | case2 s ih => simp [close?, ih, Function.comp_def, withLines]
  | case3 s => simp [close?, withLines]
  | case4 s => simp [close?]
  | case5 c s hescape hq hn ih =>
    rw [List.cons_append, close?, if_neg hq, if_neg hn, ih]
    · simp [Function.comp_def, withLines]
    · exact fun r hc => append_newline_ne_append ['"'] (by decide) (fun r => hescape r hc) rest r

namespace Token

lemma closeComment?_append_newline (s rest : List Char) :
    closeComment? (s ++ '\n' :: rest) = (closeComment? s).map (withLines rest) := by
  fun_induction closeComment? s with
  | case1 => rfl
  | case2 s => rfl
  | case3 s => simp [closeComment?]
  | case4 c s hend hn ih =>
    rw [List.cons_append, closeComment?, if_neg hn, ih]
    · simp [Function.comp_def, withLines]
    · exact fun r hc => append_newline_ne_append ['/'] (by decide) (fun r => hend r hc) rest r

lemma unsigned?_append_newline (s rest : List Char) :
    unsigned? (s ++ '\n' :: rest) = (unsigned? s).map (withLines rest) := by
  have htake := takeWhile_append_newline (p := Char.isDigit) rfl
  have hdrop := dropWhile_append_newline (p := Char.isDigit) rfl
  have hpoint {t : List Char} := append_newline_ne_append ['.'] (by decide) (s := t)
  fun_cases unsigned? s with
  | case1 r h => simp [unsigned?, htake, h]
  | case2 r h => simp [unsigned?, htake, hdrop, withLines]
  | case3 s hs h =>
    rw [unsigned?, htake, hdrop, h]
    · rfl
    · exact hpoint hs rest
  | case4 s hs r h hne =>
    obtain ⟨d, ds, hds⟩ := List.exists_cons_of_ne_nil hne
    rw [unsigned?, htake, hdrop, h, hds, List.cons_append]
    · simp [htake, hdrop, withLines]
    · exact hpoint hs rest
  | case5 s hs hne h =>
    obtain ⟨d, ds, hds⟩ := List.exists_cons_of_ne_nil hne
    rw [unsigned?, htake, hdrop, hds]
    · split
      · next he => exact absurd he (by simp)
      · next he _ => exact (hpoint h rest _ he).elim
      · rfl
    · exact hpoint hs rest

/-! ### What the rules read -/

/-- The longest run of characters of a kind, and what follows it. -/
def longest? (p : Char → Bool) (s : List Char) : Option (List Char × List Char) :=
  some (s.takeWhile p, s.dropWhile p)

/-- The rule takes one of the words `W` and what `read` finds behind it. -/
def Rule.Reads {β : Type} (rule : Rule) (W : List Char → Prop)
    (read : List Char → Option (β × List Char)) (f : List Char → β → Token) : Prop :=
  ∀ {s t r}, rule s = some (t, r) ↔
    ∃ w u x, W w ∧ s = w ++ u ∧ read u = some (x, r) ∧ t = f w x

lemma reads_lineComment? : Rule.Reads lineComment? (· = ['/', '/']) (longest? (· != '\n'))
    fun _ cs => .lineComment (String.ofList cs) := by
  intro s t r
  rw [lineComment?_eq_some_iff]
  constructor
  · rintro ⟨u, rfl, rfl, rfl⟩
    exact ⟨_, u, _, rfl, rfl, rfl, rfl⟩
  · rintro ⟨w, u, x, rfl, rfl, h, rfl⟩
    cases h
    exact ⟨u, rfl, rfl, rfl⟩

lemma reads_blockComment? : Rule.Reads blockComment? (· = ['/', '*']) closeComment?
    fun _ cs => .blockComment (String.ofList cs) := by
  intro s t r
  rw [blockComment?_eq_some_iff]
  constructor
  · rintro ⟨u, text, rfl, hu, rfl⟩
    exact ⟨_, u, text, rfl, rfl, hu, rfl⟩
  · rintro ⟨w, u, text, rfl, rfl, hu, rfl⟩
    exact ⟨u, text, rfl, hu, rfl⟩

lemma reads_quoted? : Rule.Reads quoted? (· = ['"']) Text.close?
    fun _ cs => .quoted (String.ofList cs) := by
  intro s t r
  rw [quoted?_eq_some_iff]
  constructor
  · rintro ⟨u, text, rfl, hu, rfl⟩
    exact ⟨_, u, text, rfl, rfl, hu, rfl⟩
  · rintro ⟨w, u, text, rfl, rfl, hu, rfl⟩
    exact ⟨u, text, rfl, hu, rfl⟩

lemma reads_identifier? : Rule.Reads identifier?
    (fun w => ∃ c, w = [c] ∧ isWordChar c ∧ c.isDigit = false) (longest? isWordChar)
    fun w cs => .identifier (String.ofList (w ++ cs)) := by
  intro s t r
  rw [identifier?_eq_some_iff]
  constructor
  · rintro ⟨c, u, rfl, hword, hdigit, rfl, rfl⟩
    exact ⟨[c], u, _, ⟨c, rfl, hword, hdigit⟩, rfl, rfl, rfl⟩
  · rintro ⟨w, u, x, ⟨c, rfl, hword, hdigit⟩, rfl, h, rfl⟩
    cases h
    exact ⟨c, u, rfl, hword, hdigit, rfl, rfl⟩

lemma reads_numeral? : Rule.Reads numeral? (fun w => w = [] ∨ w = ['-']) unsigned?
    fun w digits => .numeral (String.ofList (w ++ digits)) :=
  numeral?_eq_some_iff

lemma reads_blank? : Rule.Reads blank? (fun w => ∃ c, w = [c] ∧ isLineBlank c)
    (longest? isLineBlank) fun w cs => .blank (String.ofList (w ++ cs)) := by
  intro s t r
  rw [blank?_eq_some_iff]
  constructor
  · rintro ⟨c, u, rfl, hblank, rfl, rfl⟩
    exact ⟨[c], u, _, ⟨c, rfl, hblank⟩, rfl, rfl, rfl⟩
  · rintro ⟨w, u, x, ⟨c, rfl, hblank⟩, rfl, h, rfl⟩
    cases h
    exact ⟨c, u, rfl, hblank, rfl, rfl⟩

/-! ### The rules in front of a line break -/

/-- In front of a line break the rule does what it does at the end of the text. -/
def Rule.LineLocal (rule : Rule) : Prop :=
  ∀ s rest, s ≠ [] → rule (s ++ '\n' :: rest) = (rule s).map (withLines rest)

lemma longest?_append_newline {p : Char → Bool} (hp : p '\n' = false) (s rest : List Char) :
    longest? p (s ++ '\n' :: rest) = (longest? p s).map (withLines rest) := by
  simp [longest?, withLines, takeWhile_append_newline hp, dropWhile_append_newline hp]

lemma exists_append_of_append_newline {s rest w u : List Char} (hw : '\n' ∉ w)
    (h : s ++ '\n' :: rest = w ++ u) : ∃ v, s = w ++ v ∧ u = v ++ '\n' :: rest := by
  rcases List.append_eq_append_iff.1 h with ⟨v, rfl, hv⟩ | ⟨v, hs, hu⟩
  · cases v with
    | nil => exact ⟨[], by simp, hv.symm⟩
    | cons c v =>
      obtain ⟨rfl, -⟩ := List.cons.inj hv
      simp at hw
  · exact ⟨v, hs, hu⟩

lemma Rule.Reads.lineLocal {β : Type} {rule : Rule} {W : List Char → Prop}
    {read : List Char → Option (β × List Char)} {f : List Char → β → Token}
    (hrule : rule.Reads W read f) (hw : ∀ w, W w → '\n' ∉ w)
    (hread : ∀ s rest, read (s ++ '\n' :: rest) = (read s).map (withLines rest)) :
    rule.LineLocal := by
  intro s rest _
  ext ⟨t, r⟩
  rw [hrule, Option.map_eq_some_iff]
  constructor
  · rintro ⟨w, u, x, hword, hs, hu, rfl⟩
    obtain ⟨v, rfl, rfl⟩ := exists_append_of_append_newline (hw w hword) hs
    rw [hread, Option.map_eq_some_iff] at hu
    obtain ⟨⟨y, q⟩, hv, heq⟩ := hu
    cases heq
    exact ⟨(f w y, q), hrule.2 ⟨w, v, y, hword, rfl, hv, rfl⟩, rfl⟩
  · rintro ⟨⟨t, q⟩, hs, heq⟩
    cases heq
    obtain ⟨w, u, x, hword, rfl, hu, rfl⟩ := hrule.1 hs
    refine ⟨w, u ++ '\n' :: rest, x, hword, List.append_assoc .., ?_, rfl⟩
    rw [hread, hu]
    rfl

/-- A rule for tokens that are always spelled the same, with no newline behind their first
character. -/
lemma lineLocal_of_spelling {rule : Rule} {P : Token → Prop}
    (hrule : ∀ {s t r}, rule s = some (t, r) ↔ P t ∧ s = t.spelling ++ r)
    (hline : ∀ t, P t → '\n' ∉ t.spelling.tail) : rule.LineLocal := by
  intro s rest hs
  obtain ⟨c, s, rfl⟩ := List.exists_cons_of_ne_nil hs
  ext ⟨t, r⟩
  rw [hrule, Option.map_eq_some_iff]
  constructor
  · rintro ⟨ht, heq⟩
    have htail := hline t ht
    cases hspell : t.spelling with
    | nil =>
      rw [hspell] at heq
      exact ⟨(t, c :: s), hrule.2 ⟨ht, by rw [hspell]; rfl⟩, Prod.ext rfl heq⟩
    | cons d w =>
      rw [hspell] at heq htail
      obtain ⟨rfl, hrest⟩ := List.cons.inj heq
      obtain ⟨v, rfl, rfl⟩ := exists_append_of_append_newline htail hrest
      exact ⟨(t, v), hrule.2 ⟨ht, by rw [hspell]; rfl⟩, rfl⟩
  · rintro ⟨⟨t, q⟩, hq, heq⟩
    cases heq
    obtain ⟨ht, heq⟩ := hrule.1 hq
    exact ⟨ht, by rw [heq, List.append_assoc]⟩

lemma lineLocal_lineComment? : Rule.LineLocal lineComment? :=
  reads_lineComment?.lineLocal (by rintro _ rfl; decide) (longest?_append_newline rfl)

lemma lineLocal_blockComment? : Rule.LineLocal blockComment? :=
  reads_blockComment?.lineLocal (by rintro _ rfl; decide) closeComment?_append_newline

lemma lineLocal_quoted? : Rule.LineLocal quoted? :=
  reads_quoted?.lineLocal (by rintro _ rfl; decide) Text.close?_append_newline

lemma lineLocal_edgeOperator? : Rule.LineLocal edgeOperator? :=
  lineLocal_of_spelling edgeOperator?_eq_some_iff (by rintro _ (rfl | rfl) <;> decide)

lemma lineLocal_identifier? : Rule.LineLocal identifier? := by
  refine reads_identifier?.lineLocal ?_ (longest?_append_newline (by decide))
  rintro _ ⟨c, rfl, hword, -⟩ hc
  rw [← List.mem_singleton.1 hc] at hword
  revert hword
  decide

lemma lineLocal_numeral? : Rule.LineLocal numeral? :=
  reads_numeral?.lineLocal (by rintro _ (rfl | rfl) <;> decide) unsigned?_append_newline

lemma lineLocal_punctuation? : Rule.LineLocal punctuation? :=
  lineLocal_of_spelling punctuation?_eq_some_iff (by decide)

lemma lineLocal_blank? : Rule.LineLocal blank? := by
  refine reads_blank?.lineLocal ?_ (longest?_append_newline (by decide))
  rintro _ ⟨c, rfl, hblank⟩ hc
  rw [← List.mem_singleton.1 hc] at hblank
  cases hblank

lemma lineLocal_of_mem_rules : ∀ rule ∈ rules, rule.LineLocal :=
  forall_mem_rules.2 ⟨lineLocal_lineComment?, lineLocal_blockComment?, lineLocal_quoted?,
    lineLocal_edgeOperator?, lineLocal_identifier?, lineLocal_numeral?, lineLocal_punctuation?,
    lineLocal_blank?⟩

/-! ### The tokens of a text with a line break -/

lemma first_append_newline (c : Char) (r rest : List Char) :
    first c (r ++ '\n' :: rest) = withLines rest (first c r) := by
  have hrules : ∀ rs ⊆ rules, (rs.findSome? fun rule => rule (c :: r ++ '\n' :: rest)) =
      (rs.findSome? fun rule => rule (c :: r)).map (withLines rest) := by
    intro rs hrs
    induction rs with
    | nil => rfl
    | cons rule rs ih =>
      have hrule := lineLocal_of_mem_rules rule (hrs List.mem_cons_self) (c :: r) rest (by simp)
      rw [List.findSome?_cons, List.findSome?_cons, hrule, ih fun x hx => hrs (by simp [hx])]
      cases rule (c :: r) <;> rfl
  have h := hrules rules (List.Subset.refl _)
  rw [List.cons_append] at h
  rw [first, first, h]
  cases rules.findSome? fun rule => rule (c :: r) <;> rfl

lemma scan_append_newline (s rest : List Char) :
    scan (s ++ '\n' :: rest) = scan s ++ .newline :: scan rest := by
  fun_induction scan s with
  | case1 => exact scan_cons '\n' rest
  | case2 c r ih =>
    rw [List.cons_append, scan_cons, first_append_newline]
    exact congrArg _ ih

/-- No token but a newline holds a line break: the lines are scanned one by one, and what a token
stands for is part of its line. -/
lemma newline_notMem_spelling {s : List Char} {t : Token} (ht : t ∈ scan s) (hn : t ≠ .newline) :
    '\n' ∉ t.spelling := by
  induction hlen : s.length using Nat.strongRecOn generalizing s with
  | ind n ih =>
    by_cases hs : '\n' ∈ s
    · obtain ⟨line, rest, rfl, hline⟩ := List.eq_append_cons_of_mem hs
      rw [scan_append_newline] at ht
      simp only [List.length_append, List.length_cons] at hlen
      rcases List.mem_append.1 ht with ht | ht
      · exact ih line.length (by omega) ht rfl
      · have ht : t ∈ scan rest := (List.mem_cons.1 ht).resolve_left hn
        exact ih rest.length (by omega) ht rfl
    · intro hm
      have : '\n' ∈ spellings (scan s) := List.mem_flatMap.2 ⟨t, ht, hm⟩
      rw [spellings_scan] at this
      exact hs this

end Token

/-! ### Where the tokens stand -/

/-- The span that starts and ends `n` bytes later. -/
def Span.shift (n : Nat) (s : Span) : Span := ⟨s.start + n, s.stop + n⟩

lemma byteLength_toList (s : String) : byteLength s.toList = s.utf8ByteSize := by
  have h (cs : List Char) : byteLength cs = (String.ofList cs).utf8ByteSize := by
    induction cs with
    | nil => rfl
    | cons c cs ih => simp [String.ofList_cons, ← ih]
  rw [h, String.ofList_toList]

namespace Token

lemma locate_append (start : Nat) (ts us : List Token) : locate start (ts ++ us) =
    locate start ts ++ locate (start + byteLength (spellings ts)) us := by
  induction ts generalizing start with
  | nil => rfl
  | cons t ts ih => simp [locate, ih, Nat.add_assoc]

lemma locate_add (start n : Nat) (ts : List Token) :
    locate (start + n) ts = (locate start ts).map fun p => (p.1, p.2.shift n) := by
  induction ts generalizing start with
  | nil => rfl
  | cons t ts ih =>
    have hstop : start + n + byteLength t.spelling = start + byteLength t.spelling + n := by omega
    simp [locate, hstop, ih, Span.shift]

/-- **Lines are scanned apart**: the tokens of a text with a line break in it are those of what
stands in front, a newline of one byte, and those of what stands behind it, moved to their place.
So a newline is the only token with a line break in it. -/
theorem located_append_newline (a b : String) :
    located (a ++ "\n" ++ b) =
      located a ++ (newline, ⟨a.utf8ByteSize, a.utf8ByteSize + 1⟩) ::
        (located b).map (fun p => (p.1, p.2.shift (a.utf8ByteSize + 1))) ∧
    ∀ s, ∀ p ∈ located s, p.1 ≠ newline → '\n' ∉ p.1.spelling := by
  constructor
  · have htext : (a ++ "\n" ++ b).toList = a.toList ++ '\n' :: b.toList := by simp
    have hlen : byteLength (spellings (scan a.toList)) = a.utf8ByteSize := by
      rw [spellings_scan, byteLength_toList]
    have hshift := locate_add 0 (a.utf8ByteSize + 1) (scan b.toList)
    rw [Nat.zero_add] at hshift
    calc located (a ++ "\n" ++ b)
      _ = locate 0 (scan a.toList ++ newline :: scan b.toList) := by
        rw [located, ofString, htext, scan_append_newline]
      _ = located a ++ (newline, ⟨a.utf8ByteSize, a.utf8ByteSize + 1⟩) ::
          locate (a.utf8ByteSize + 1) (scan b.toList) := by
        rw [locate_append, hlen, Nat.zero_add]
        rfl
      _ = _ := by
        rw [hshift]
        rfl
  · intro s p hp hn
    have hmem : p.1 ∈ scan s.toList := by
      have := List.mem_map_of_mem (f := Prod.fst) hp
      rwa [located, map_fst_locate] at this
    exact newline_notMem_spelling hmem hn

end Token

end DotDrawing
