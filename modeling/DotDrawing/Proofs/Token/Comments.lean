import DotDrawing.Proofs.Token.Quoting
import DotDrawing.Proofs.Token.Tidy

/-!
Comments between the tokens of a text.

A comment that stands behind a quoted text, another comment or a mark of an attribute list can be
taken out of a text, or other white space be put in its place, without a change to the tokens on
both sides. A mark that the tokens in front of it leave open is not closed without the comment
either. Main statement: `ofString_of_commented`.
-/

namespace DotDrawing

variable {x y : List Char}

/-! ### Open marks -/

/-- A quote that nothing closes in a part of a text is closed behind it if the line goes on and
something closes there. -/
lemma Text.close?_append_eq_none_iff (h : close? x = none) (hb : x.getLast? ≠ some '\\') :
    close? (x ++ y) = none ↔ '\n' ∈ x ∨ close? y = none := by
  fun_induction close? x with
  | case1 => simp
  | case2 s ih =>
    have hs : close? s = none := Option.map_eq_none_iff.1 h
    have hlast : s.getLast? ≠ some '\\' := by
      intro hlast
      refine hb ?_
      rw [List.getLast?_cons_cons, List.getLast?_cons, hlast]
      rfl
    simpa [close?] using ih hs hlast
  | case3 => cases h
  | case4 s => simp [close?]
  | case5 c s hescape hq hn ih =>
    have hs : close? s = none := Option.map_eq_none_iff.1 h
    have hlast : s.getLast? ≠ some '\\' := by
      intro hlast
      refine hb ?_
      rw [List.getLast?_cons, hlast]
      rfl
    -- a backslash at the end of `x` is excluded, so no escape goes on into `y`
    have hhead : c = '\\' → (s ++ y).head? ≠ some '"' := by
      rintro rfl
      cases s with
      | nil => exact absurd rfl hb
      | cons d s =>
        intro hd
        obtain rfl : d = '"' := by simpa using hd
        exact hescape s rfl rfl
    rw [List.cons_append, close?_cons hq hn hhead, Option.map_eq_none_iff, ih hs hlast]
    simp [Ne.symm hn]

lemma Text.close?_append_ne_none (hn : '\n' ∉ x) (hb : x.getLast? ≠ some '\\')
    (hy : close? y ≠ none) : close? (x ++ y) ≠ none := by
  intro hnone
  have hx : close? x = none := by
    rcases closesIn_close? x y with h | ⟨h, -⟩
    · rw [hnone] at h
      exact Option.map_eq_none_iff.1 h.symm
    · exact h
  rcases (close?_append_eq_none_iff hx hb).1 hnone with h | h
  · exact hn h
  · exact hy h

namespace Token

lemma closeComment?_ne_none (hn : '\n' ∉ x) : closeComment? (x ++ '*' :: '/' :: y) ≠ none := by
  induction x with
  | nil => simp [closeComment?]
  | cons c x ih =>
    simp only [List.mem_cons, not_or] at hn
    rw [List.cons_append]
    unfold closeComment?
    split
    · simp_all
    · simp
    · next heq =>
      obtain ⟨rfl, rfl⟩ := List.cons.inj heq
      simpa [Ne.symm hn.1] using ih hn.2

/-! ### Tokens that hold a mark -/

/-- Line comments, block comments and quoted texts. -/
def IsMarked : Token → Prop
  | lineComment _ | blockComment _ | quoted _ => True
  | _ => False

/-- The last characters of quoted texts and block comments, and the marks of attribute lists. -/
def isFinal (c : Char) : Bool := c == '"' || c == '/' || c == ',' || c == ';' || c == '='

lemma isFinal_iff {c : Char} : isFinal c ↔ c ∈ ['"', '/', ',', ';', '='] := by
  simp [isFinal, or_assoc]

lemma not_of_isFinal {d : Char} (h : isFinal d) : isWordChar d = false ∧ isLineBlank d = false ∧
    d.isDigit = false ∧ d ∉ ['.', '-', '>'] := by
  have hd := isFinal_iff.1 h
  simp only [List.mem_cons, List.not_mem_nil, or_false] at hd
  rcases hd with rfl | rfl | rfl | rfl | rfl <;> decide +kernel

/-- No token of the rule goes on behind a final character, marked tokens apart. -/
def Rule.GoesOnMarked (rule : Rule) : Prop :=
  ∀ ⦃s r x v : List Char⦄ ⦃d : Char⦄ ⦃t : Token⦄, rule s = some (t, r) → isFinal d →
    t.spelling = x ++ d :: v → v ≠ [] → t.IsMarked

lemma goesOnMarked_of_notMem {rule : Rule}
    (h : ∀ ⦃s r : List Char⦄ ⦃d : Char⦄ ⦃t : Token⦄, rule s = some (t, r) → isFinal d →
      d ∉ t.spelling) : rule.GoesOnMarked := by
  intro s r x v d t hrule hd hspell _
  refine absurd ?_ (h hrule hd)
  rw [hspell]
  exact List.mem_append_right _ List.mem_cons_self

lemma goesOnMarked_lineComment? : Rule.GoesOnMarked lineComment? := by
  intro s r x v d t h _ _ _
  obtain ⟨_, -, rfl, -⟩ := lineComment?_eq_some_iff.1 h
  trivial

lemma goesOnMarked_blockComment? : Rule.GoesOnMarked blockComment? := by
  intro s r x v d t h _ _ _
  obtain ⟨_, _, -, -, rfl⟩ := blockComment?_eq_some_iff.1 h
  trivial

lemma goesOnMarked_quoted? : Rule.GoesOnMarked quoted? := by
  intro s r x v d t h _ _ _
  obtain ⟨_, _, -, -, rfl⟩ := quoted?_eq_some_iff.1 h
  trivial

lemma goesOnMarked_edgeOperator? : Rule.GoesOnMarked edgeOperator? := by
  refine goesOnMarked_of_notMem fun s r d t h hd hmem => ?_
  obtain ⟨-, -, -, hsign⟩ := not_of_isFinal hd
  obtain ⟨rfl | rfl, -⟩ := edgeOperator?_eq_some_iff.1 h
  all_goals
    simp only [spelling, List.mem_cons, List.not_mem_nil, or_false] at hmem
    simp_all

lemma goesOnMarked_identifier? : Rule.GoesOnMarked identifier? := by
  refine goesOnMarked_of_notMem fun s r d t h hd hmem => ?_
  obtain ⟨hword, -⟩ := not_of_isFinal hd
  rw [mem_identifier? h d hmem] at hword
  cases hword

lemma goesOnMarked_numeral? : Rule.GoesOnMarked numeral? := by
  refine goesOnMarked_of_notMem fun s r d t h hd hmem => ?_
  obtain ⟨-, -, hdigit, hsign⟩ := not_of_isFinal hd
  rcases mem_numeral? h d hmem with (hd | rfl) | rfl
  · rw [hdigit] at hd
    cases hd
  · simp at hsign
  · simp at hsign

lemma goesOnMarked_punctuation? : Rule.GoesOnMarked punctuation? := by
  intro s r x v d t h _ hspell hv
  obtain ⟨ht, -⟩ := punctuation?_eq_some_iff.1 h
  -- a mark is one character, and behind `d` there are more
  have hlen := length_spelling_of_mem_marks t ht
  have hpos := List.length_pos_iff.2 hv
  rw [hspell, List.length_append, List.length_cons] at hlen
  omega

lemma goesOnMarked_blank? : Rule.GoesOnMarked blank? := by
  refine goesOnMarked_of_notMem fun s r d t h hd hmem => ?_
  obtain ⟨-, hblank, -⟩ := not_of_isFinal hd
  obtain ⟨c, u, -, hc, rfl, -⟩ := blank?_eq_some_iff.1 h
  rw [spelling, String.toList_ofList] at hmem
  have hd : isLineBlank d := by
    rcases List.mem_cons.1 hmem with rfl | hmem
    · exact hc
    · exact List.mem_takeWhile_imp hmem
  rw [hblank] at hd
  cases hd

lemma goesOnMarked_of_mem_rules : ∀ rule ∈ rules, rule.GoesOnMarked :=
  forall_mem_rules.2 ⟨goesOnMarked_lineComment?, goesOnMarked_blockComment?, goesOnMarked_quoted?,
    goesOnMarked_edgeOperator?, goesOnMarked_identifier?, goesOnMarked_numeral?,
    goesOnMarked_punctuation?, goesOnMarked_blank?⟩

lemma isMarked_first {c d : Char} {r v : List Char} (hd : isFinal d)
    (hspell : (first c r).1.spelling = x ++ d :: v) (hv : v ≠ []) : (first c r).1.IsMarked := by
  rcases first_cases c r with h | ⟨rule, hmem, hrule⟩
  · rw [h] at hspell
    have hlen := congrArg List.length hspell
    have hpos := List.length_pos_iff.2 hv
    simp only [spelling, List.length_append, List.length_cons, List.length_nil] at hlen
    omega
  · exact goesOnMarked_of_mem_rules rule hmem hrule hd hspell hv

/-! ### Taking a remark out -/

/-- A piece of a line in which every open comment ends and that does not escape what follows. -/
structure IsRemark (w : List Char) : Prop where
  line : '\n' ∉ w
  closes : ∃ x y, w = x ++ '*' :: '/' :: y
  last : w.getLast? ≠ some '\\'

variable {c : Char} {r w gap b q : List Char} {t : Token}

lemma close?_gap_append (hgap : ∀ c ∈ gap, isLineBlank c) :
    Text.close? (gap ++ b) = none ↔ Text.close? b = none := by
  have hmem {d : Char} (hd : isLineBlank d = false) : d ∉ gap := by
    intro hm
    rw [hgap d hm] at hd
    cases hd
  have hopen : Text.close? gap = none := by
    rw [Option.eq_none_iff_forall_ne_some]
    intro p hp
    have hspell := escape_append_of_close? hp
    refine hmem (d := '"') rfl ?_
    rw [← hspell]
    exact List.mem_append_right _ List.mem_cons_self
  have hlast : gap.getLast? ≠ some '\\' := fun h =>
    hmem (d := '\\') rfl (List.mem_of_getLast? h)
  rw [Text.close?_append_eq_none_iff hopen hlast]
  simp [hmem (d := '\n') rfl]

lemma exists_close?_gap (hw : IsRemark w) (hgap : ∀ c ∈ gap, isLineBlank c)
    (hlast : r.getLast? ≠ some '\\') (h : first '"' (r ++ (w ++ b)) = (t, q ++ (w ++ b)))
    {p : List Char × List Char} (hclose : Text.close? (r ++ (gap ++ b)) = some p) :
    ∃ v, p.2 = v ++ (gap ++ b) := by
  cases hr : Text.close? r with
  | some u =>
    have hwhole := (Text.closesIn_close? r (gap ++ b)).eq_some hr
    rw [hclose, Option.some.injEq] at hwhole
    exact ⟨u.2, by rw [hwhole]⟩
  | none =>
    -- nothing closes the text in `r`, so `b` does, also behind the remark
    exfalso
    have hopen : ¬ ('\n' ∈ r ∨ Text.close? b = none) := by
      rw [← close?_gap_append hgap, ← Text.close?_append_eq_none_iff hr hlast, hclose]
      exact Option.some_ne_none p
    rw [not_or] at hopen
    have hremark : Text.close? (r ++ (w ++ b)) ≠ none :=
      Text.close?_append_ne_none hopen.1 hlast
        (Text.close?_append_ne_none hw.line hw.last hopen.2)
    obtain ⟨u, hu⟩ := Option.ne_none_iff_exists'.1 hremark
    rw [first_quote, hu] at h
    obtain ⟨-, hrest⟩ := Prod.mk.inj h
    have hpart := (Bounded.of_closesIn Text.closesIn_close?).of_eq_some (t := u.1) (r := q)
      (hu.trans (congrArg some (Prod.ext rfl hrest)))
    rw [hr] at hpart
    cases hpart

lemma first_slash_star (r : List Char) : first '/' ('*' :: r) =
    ((closeComment? r).map fun p => (Token.blockComment (String.ofList p.1), p.2)).getD
      (.unknown '/', '*' :: r) := by
  cases h : closeComment? r with
  | some p => simp [first, rules, lineComment?, blockComment?, h]
  | none =>
    have hother : ∀ rule ∈ [quoted?, edgeOperator?, identifier?, numeral?, punctuation?, blank?],
        rule ('/' :: '*' :: r) = none := by
      simp only [List.mem_cons, List.not_mem_nil, or_false]
      rintro rule (rfl | rfl | rfl | rfl | rfl | rfl) <;> rfl
    simp [first, rules, lineComment?, blockComment?, h, hother]

lemma exists_closeComment?_gap (hw : IsRemark w) (hn : '\n' ∉ r)
    (h : first '/' ('*' :: (r ++ (w ++ b))) = (t, q ++ (w ++ b)))
    {p : List Char × List Char} (hclose : closeComment? (r ++ (gap ++ b)) = some p) :
    ∃ v, p.2 = v ++ (gap ++ b) := by
  have hremark : closeComment? (r ++ (w ++ b)) ≠ none := by
    obtain ⟨x, y, rfl⟩ := hw.closes
    have hx : '\n' ∉ r ++ x := by
      rw [List.mem_append, not_or]
      exact ⟨hn, fun hx => hw.line (List.mem_append_left _ hx)⟩
    simpa using closeComment?_ne_none (y := y ++ b) hx
  obtain ⟨u, hu⟩ := Option.ne_none_iff_exists'.1 hremark
  rw [first_slash_star, hu] at h
  obtain ⟨-, hrest⟩ := Prod.mk.inj h
  have hr := (Bounded.of_closesIn closesIn_closeComment?).of_eq_some (t := u.1) (r := q)
    (hu.trans (congrArg some (Prod.ext rfl hrest)))
  have hwhole := (closesIn_closeComment? r (gap ++ b)).eq_some hr
  rw [hclose, Option.some.injEq] at hwhole
  exact ⟨q, by rw [hwhole]⟩

lemma first_lineComment_ne (hw : IsRemark w) (hn : '\n' ∉ r) :
    first '/' ('/' :: r ++ (w ++ b)) ≠ (t, q ++ (w ++ b)) := by
  intro h
  -- the comment runs on through the remark
  have hgo : ∀ c ∈ r ++ w, (c != '\n') = true := by
    intro c hc
    rw [bne_iff_ne]
    rintro rfl
    exact (List.mem_append.1 hc).elim hn hw.line
  have hdrop : (r ++ (w ++ b)).dropWhile (· != '\n') = b.dropWhile (· != '\n') := by
    rw [← List.append_assoc, List.dropWhile_append_of_pos hgo]
  rw [List.cons_append, first_lineComment, hdrop] at h
  have hlen := congrArg List.length (Prod.mk.inj h).2
  have hle := (List.dropWhile_sublist (· != '\n') (l := b)).length_le
  have hpos : 0 < w.length := by
    obtain ⟨x, y, hxy⟩ := hw.closes
    rw [hxy, List.length_append, List.length_cons]
    omega
  simp only [List.length_append] at hlen
  omega

lemma newline_notMem_of_isMarked {s : List Char} (hmarked : (first c s).1.IsMarked) :
    '\n' ∉ (first c s).1.spelling := by
  have hmem : (first c s).1 ∈ scan (c :: s) := by
    rw [scan_cons]
    exact List.mem_cons_self
  refine newline_notMem_spelling hmem fun hnewline => ?_
  rw [hnewline] at hmarked
  exact hmarked.elim

/-- A marked first token that goes on where the remark is taken out has its end in front of that
place after all: what opens it would be closed there with the remark too. -/
lemma exists_first_gap_of_isMarked (hw : IsRemark w) (hgap : ∀ c ∈ gap, isLineBlank c)
    (hlast : ∀ d ∈ (c :: r).getLast?, isFinal d) (hslash : r = [] → c ≠ '/')
    (h : first c (r ++ (w ++ b)) = (t, q ++ (w ++ b)))
    (hmarked : (first c (r ++ (gap ++ b))).1.IsMarked) {v : List Char}
    (hover : (first c (r ++ (gap ++ b))).1.spelling = c :: r ++ v) :
    ∃ v, (first c (r ++ (gap ++ b))).2 = v ++ (gap ++ b) := by
  have hline : '\n' ∉ c :: r := fun hm =>
    newline_notMem_of_isMarked hmarked (hover ▸ List.mem_append_left _ hm)
  cases htoken : (first c (r ++ (gap ++ b))).1 with
  | lineComment text =>
    -- with the remark the comment would go on behind it
    rw [htoken] at hover
    obtain ⟨rfl, hr⟩ := List.cons.inj hover
    cases r with
    | nil => exact absurd rfl (hslash rfl)
    | cons d r =>
      obtain ⟨rfl, -⟩ := List.cons.inj hr
      exact absurd h (first_lineComment_ne hw fun hm => hline (by simp [hm]))
  | blockComment text =>
    -- the remark ends a comment that is open in front of it
    rw [htoken] at hover
    obtain ⟨rfl, hr⟩ := List.cons.inj hover
    cases r with
    | nil => exact absurd rfl (hslash rfl)
    | cons d r =>
      obtain ⟨rfl, -⟩ := List.cons.inj hr
      rw [List.cons_append, first_slash_star] at htoken ⊢
      cases hclose : closeComment? (r ++ (gap ++ b)) with
      | none =>
        rw [hclose] at htoken
        cases htoken
      | some p => exact exists_closeComment?_gap hw (fun hm => hline (by simp [hm])) h hclose
  | quoted text =>
    -- what closes the text stands in front of the place or behind it, with the remark or without
    rw [htoken] at hover
    obtain ⟨rfl, -⟩ := List.cons.inj hover
    rw [first_quote] at htoken ⊢
    cases hclose : Text.close? (r ++ (gap ++ b)) with
    | none =>
      rw [hclose] at htoken
      cases htoken
    | some p =>
      refine exists_close?_gap hw hgap ?_ h hclose
      intro hr
      have hfinal := hlast '\\' (by rw [List.getLast?_cons, hr]; rfl)
      cases hfinal
  | _ =>
    rw [htoken] at hmarked
    exact hmarked.elim

lemma exists_first_gap (hw : IsRemark w) (hgap : ∀ c ∈ gap, isLineBlank c)
    (hlast : ∀ d ∈ (c :: r).getLast?, isFinal d) (hslash : r = [] → c ≠ '/')
    (h : first c (r ++ (w ++ b)) = (t, q ++ (w ++ b))) :
    ∃ v, (first c (r ++ (gap ++ b))).2 = v ++ (gap ++ b) := by
  have hspell := (first_spelling c (r ++ (gap ++ b))).1
  rw [← List.cons_append] at hspell
  rcases List.append_eq_append_iff.1 hspell with ⟨v, -, hrest⟩ | ⟨v, hover, hrest⟩
  · exact ⟨v, hrest⟩
  by_cases hv : v = []
  · subst hv
    exact ⟨[], hrest.symm⟩
  -- the token goes on behind the final character, so it is marked
  obtain ⟨x, d, hx⟩ := (List.eq_nil_or_concat' (c :: r)).resolve_left (List.cons_ne_nil c r)
  have hd : isFinal d := hlast d (by rw [hx]; simp)
  have hcut : (first c (r ++ (gap ++ b))).1.spelling = x ++ d :: v := by
    rw [hover, hx, List.append_assoc, List.singleton_append]
  exact exists_first_gap_of_isMarked hw hgap hlast hslash h (isMarked_first hd hcut hv) hover

/-- The last character of the token is final, and the token is no slash. -/
def EndsFinally (t : Token) : Prop :=
  ∃ x d, t.spelling = x ++ [d] ∧ isFinal d ∧ (x = [] → d ≠ '/')

lemma exists_spellings_eq {ts : List Token} (hne : ts ≠ [])
    (h : ∀ t ∈ ts.getLast?, t.EndsFinally) :
    ∃ x d, spellings ts = x ++ [d] ∧ isFinal d ∧ (x = [] → d ≠ '/') := by
  obtain ⟨us, u, rfl⟩ := (List.eq_nil_or_concat' ts).resolve_left hne
  obtain ⟨x, d, hspell, hd, hslash⟩ := h u (by simp)
  refine ⟨spellings us ++ x, d, ?_, hd, fun hx => hslash (List.append_eq_nil_iff.1 hx).2⟩
  rw [spellings_append, spellings_cons, spellings_nil, hspell, List.append_nil, List.append_assoc]

/-- **Taking a remark out.** Behind a token with a final character at its end, a piece of a line
that ends all comments can be replaced by white space: the tokens in front of it stay. -/
lemma scan_append_gap (hw : IsRemark w) (hgap : ∀ c ∈ gap, isLineBlank c) {front back : List Token}
    (hfront : ∀ t ∈ front.getLast?, t.EndsFinally)
    (h : scan (spellings front ++ (w ++ b)) = front ++ back) :
    scan (spellings front ++ (gap ++ b)) = front ++ scan (gap ++ b) := by
  induction front with
  | nil => rfl
  | cons t front ih =>
    obtain ⟨x, d, hxd, hd, hslash⟩ := exists_spellings_eq (List.cons_ne_nil t front) hfront
    obtain ⟨c, r, hcr⟩ : ∃ c r, spellings (t :: front) = c :: r := by
      refine List.exists_cons_of_ne_nil ?_
      rw [hxd]
      simp
    have hspell : t.spelling ++ spellings front = c :: r := hcr
    rw [hcr, List.cons_append, scan_cons, List.cons_append] at h
    obtain ⟨hfirst, hscan⟩ := List.cons.inj h
    have hrest : (first c (r ++ (w ++ b))).2 = spellings front ++ (w ++ b) := by
      have hwhole := (first_spelling c (r ++ (w ++ b))).1
      rw [hfirst, ← List.cons_append, ← hspell, List.append_assoc] at hwhole
      exact List.append_cancel_left hwhole
    have hremark : first c (r ++ (w ++ b)) = (t, spellings front ++ (w ++ b)) :=
      Prod.ext hfirst hrest
    have hlast : ∀ d ∈ (c :: r).getLast?, isFinal d := by
      intro e he
      rw [← hcr, hxd, List.getLast?_concat] at he
      rwa [← Option.some.inj he]
    have hone : r = [] → c ≠ '/' := by
      rintro rfl
      rw [hcr, ← List.nil_append [c]] at hxd
      obtain ⟨hx, hcd⟩ := List.append_inj' hxd rfl
      rw [(List.cons.inj hcd).1]
      exact hslash hx.symm
    -- without the remark the first token is the same, and so are the others
    obtain ⟨v, hv⟩ := exists_first_gap hw hgap hlast hone hremark
    have hgapfirst : first c r = ((first c (r ++ (gap ++ b))).1, v) :=
      first_of_append (Prod.ext rfl hv)
    rw [first_of_append hremark] at hgapfirst
    obtain ⟨htoken, rfl⟩ := Prod.mk.inj hgapfirst
    rw [hrest] at hscan
    have hmore : ∀ t ∈ front.getLast?, t.EndsFinally := by
      intro u hu
      refine hfront u ?_
      rw [List.getLast?_cons, hu]
      rfl
    rw [hcr, List.cons_append, scan_cons, ← htoken, hv, ih hmore hscan]
    rfl

/-! ### Comments -/

/-- The second text is the first with a comment between the tokens `front` and `back`. The white
space there can be any in both. -/
structure Commented (s s' : String) (front back : List Token) : Prop where
  plain : ∃ gap, (∀ c ∈ gap, isLineBlank c) ∧
    s.toList = spellings front ++ gap ++ spellings back
  commented : ∃ gap gap' comment, (∀ c ∈ gap ++ gap', isLineBlank c) ∧
    ofString s' = front ++ scan gap ++ .blockComment comment :: scan gap' ++ back
  front_visible : ∀ t ∈ front.getLast?, ∀ text, t ≠ .blank text
  back_visible : ∀ t ∈ back.head?, ∀ text, t ≠ .blank text

lemma scan_gap_append (hgap : ∀ c ∈ gap, isLineBlank c)
    (hb : ∀ t ∈ (scan b).head?, ∀ text, t ≠ .blank text) :
    scan (gap ++ b) = scan gap ++ scan b := by
  -- what follows does not start with white space, so the token of the gap ends there
  have hstart : b.takeWhile isLineBlank = [] ∧ b.dropWhile isLineBlank = b := by
    cases b with
    | nil => exact ⟨rfl, rfl⟩
    | cons d b =>
      have hd : ¬ isLineBlank d := by
        intro hd
        have hmem : (first d b).1 ∈ (scan (d :: b)).head? := by
          rw [scan_cons]
          rfl
        rw [first_of_isLineBlank hd] at hmem
        exact hb _ hmem _ rfl
      exact ⟨List.takeWhile_cons_of_neg hd, List.dropWhile_cons_of_neg hd⟩
  cases gap with
  | nil => rw [scan_nil, List.nil_append, List.nil_append]
  | cons c r =>
    have hr : ∀ d ∈ r, isLineBlank d := fun d hd => hgap d (List.mem_cons_of_mem _ hd)
    rw [List.cons_append, scan_cons, scan_cons, first_of_isLineBlank (hgap c List.mem_cons_self),
      first_of_isLineBlank (hgap c List.mem_cons_self), List.takeWhile_append_of_pos hr,
      List.dropWhile_append_of_pos hr, hstart.1, hstart.2, List.takeWhile_eq_self_iff.2 hr,
      List.dropWhile_eq_nil_iff.2 hr, List.append_nil, scan_nil]
    rfl

lemma isRemark_comment {gap' : List Char} {comment : String} {s : List Char}
    (hgap : ∀ c ∈ gap ++ gap', isLineBlank c) (h : .blockComment comment ∈ scan s) :
    IsRemark (gap ++ (blockComment comment).spelling ++ gap') where
  line := by
    have hline : '\n' ∉ gap ++ gap' := by
      intro hm
      cases hgap _ hm
    have hcomment := newline_notMem_spelling h nofun
    simp only [List.mem_append, not_or] at hline ⊢
    exact ⟨⟨hline.1, hcomment⟩, hline.2⟩
  closes := ⟨gap ++ '/' :: '*' :: comment.toList, gap', by simp [spelling]⟩
  last := by
    intro hlast
    -- the last character is a slash or white space
    rw [List.getLast?_append] at hlast
    cases hlast' : gap'.getLast? with
    | none =>
      rw [hlast'] at hlast
      simp [spelling, List.getLast?_append, List.getLast?_cons] at hlast
    | some d =>
      rw [hlast'] at hlast
      have hd := hgap d (List.mem_append_right _ (List.mem_of_getLast? hlast'))
      rw [Option.some.inj hlast] at hd
      cases hd

lemma endsFinally_quoted (text : String) : EndsFinally (.quoted text) :=
  ⟨'"' :: Text.escape text.toList, '"', rfl, rfl, nofun⟩

lemma endsFinally_blockComment (text : String) : EndsFinally (.blockComment text) :=
  ⟨'/' :: '*' :: (text.toList ++ ['*']), '/', by simp [spelling], rfl, nofun⟩

lemma Commented.endsFinally {s s' : String} {front back : List Token}
    (h : Commented s s' front back) {t : Token} (ht : t ∈ front.getLast?) (htrivia : t.isTrivia) :
    t.EndsFinally := by
  cases t with
  | blank text => exact absurd rfl (h.front_visible _ ht text)
  | blockComment text => exact endsFinally_blockComment text
  | lineComment text =>
    obtain ⟨gap, gap', comment, hgaps, hs'⟩ := h.commented
    have hchain := commentsEndLines_scan s'.toList
    rw [← ofString, hs', List.append_assoc, List.append_assoc] at hchain
    have hnext := (List.isChain_append.1 hchain).2.2 _ ht
    rcases scan_of_isLineBlank fun c hc => hgaps c (List.mem_append_left gap' hc) with rfl | hscan
    · rw [scan_nil] at hnext
      cases hnext _ rfl ⟨text, rfl⟩
    · rw [hscan] at hnext
      cases hnext _ rfl ⟨text, rfl⟩
  | _ => cases htrivia

/-- **Without the comment**, the tokens on both sides of it are the same. -/
theorem ofString_of_commented {s s' : String} {front back : List Token}
    (h : Commented s s' front back)
    (hfront : ∀ t ∈ front.getLast?, t.isTrivia ∨ t.EndsFinally) :
    ∃ gap, (∀ c ∈ gap, isLineBlank c) ∧ ofString s = front ++ scan gap ++ back := by
  have hfinal : ∀ t ∈ front.getLast?, t.EndsFinally := fun t ht =>
    (hfront t ht).elim (h.endsFinally ht) id
  obtain ⟨gap, hgap, hs⟩ := h.plain
  obtain ⟨gap₁, gap₂, comment, hgaps, hs'⟩ := h.commented
  have hmem : .blockComment comment ∈ scan s'.toList := by
    have hmem : .blockComment comment ∈ ofString s' := by
      rw [hs']
      simp
    exact hmem
  have hw := isRemark_comment hgaps hmem
  have htext : s'.toList = spellings front ++
      (gap₁ ++ (blockComment comment).spelling ++ gap₂ ++ spellings back) := by
    rw [← spellings_scan s'.toList, ← ofString, hs']
    simp [spellings_scan]
  have hscan : scan (spellings front ++
      (gap₁ ++ (blockComment comment).spelling ++ gap₂ ++ spellings back)) =
        front ++ (scan gap₁ ++ .blockComment comment :: scan gap₂ ++ back) := by
    rw [← htext, ← ofString, hs']
    simp
  -- the tokens behind the comment are found again by themselves
  have hback : scan (spellings back) = back := by
    refine scan_spellings (s := s'.toList) ?_
    rw [← ofString, hs']
    exact (List.suffix_append _ _).isInfix
  refine ⟨gap, hgap, ?_⟩
  calc ofString s
    _ = scan (spellings front ++ (gap ++ spellings back)) := by
      rw [ofString, hs, List.append_assoc]
    _ = front ++ scan (gap ++ spellings back) := scan_append_gap hw hgap hfinal hscan
    _ = front ++ (scan gap ++ back) := by
      rw [scan_gap_append hgap (by rw [hback]; exact h.back_visible), hback]
    _ = front ++ scan gap ++ back := (List.append_assoc ..).symm

end Token

end DotDrawing
