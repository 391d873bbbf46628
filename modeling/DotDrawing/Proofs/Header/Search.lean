import DotDrawing.Header
import DotDrawing.Proofs.Statement.Grammar
import DotDrawing.Proofs.Token.Tidy

/-!
The search for a header.

The body is a tail of the tokens. What the search finds depends neither on noise at the ends of
lines (`find?_tidy`) nor on a banner in front of the header (`find?_banner`).
-/

namespace DotDrawing

/-- The word for graphs of a kind in a header. -/
def Graph.Kind.keyword : Graph.Kind → Keyword
  | directed => .digraph
  | undirected => .graph

namespace Header

open Token (tidy settle)

/-! ### What a header is made of -/

/-- The tokens without white space, comments and newlines. -/
def marks (ts : List Token) : List Token := ts.filter fun t => !(t.isTrivia || t == .newline)

/-- The rest of the tokens stands behind tokens with the given marks. -/
def Leaves (ms ts rest : List Token) : Prop := ∃ front, ts = front ++ rest ∧ marks front = ms

lemma Leaves.refl (ts : List Token) : Leaves [] ts ts := ⟨[], rfl, rfl⟩

lemma Leaves.trans {ms ns ts us rest : List Token} (h : Leaves ms ts us) (h' : Leaves ns us rest) :
    Leaves (ms ++ ns) ts rest := by
  obtain ⟨front, rfl, hms⟩ := h
  obtain ⟨more, rfl, hns⟩ := h'
  refine ⟨front ++ more, (List.append_assoc ..).symm, ?_⟩
  rw [marks, List.filter_append, ← hms, ← hns]
  rfl

lemma leaves_cons {t : Token} (ht : marks [t] = [t]) (ts : List Token) :
    Leaves [t] (t :: ts) (skipGap ts) := by
  refine ⟨t :: ts.takeWhile fun t => t.isTrivia || t == .newline, ?_, ?_⟩
  · rw [List.cons_append, skipGap, List.takeWhile_append_dropWhile]
  · have hgap : marks (ts.takeWhile fun t => t.isTrivia || t == .newline) = [] := by
      refine List.filter_eq_nil_iff.2 fun u hu => ?_
      rw [List.mem_takeWhile_imp hu]
      exact Bool.false_ne_true
    calc marks (t :: ts.takeWhile fun t => t.isTrivia || t == .newline)
      _ = marks [t] ++ marks (ts.takeWhile fun t => t.isTrivia || t == .newline) :=
        List.filter_append [t] _
      _ = [t] := by rw [ht, hgap, List.append_nil]

lemma marks_of_isKeyword {t : Token} {k : Keyword} (h : t.IsKeyword k) : marks [t] = [t] := by
  obtain ⟨name, rfl, -⟩ := h
  rfl

lemma marks_of_id? {t : Token} {id : String} (h : t.id? = some id) : marks [t] = [t] := by
  cases t <;> first | rfl | cases h

lemma leaves_afterStrict (ts : List Token) : ∃ strict? : Option Token,
    Leaves strict?.toList ts (afterStrict ts).2 ∧ (∀ t ∈ strict?, t.IsKeyword .strict) ∧
      (afterStrict ts).1 = strict?.isSome := by
  unfold afterStrict
  split
  · next t rest =>
    split
    · next hk =>
      have hword := Token.keyword?_eq_some_iff.1 hk
      exact ⟨some t, leaves_cons (marks_of_isKeyword hword) rest, by simpa using hword, rfl⟩
    · exact ⟨none, .refl _, nofun, rfl⟩
  · exact ⟨none, .refl _, nofun, rfl⟩

lemma leaves_kind? {ts rest : List Token} {kind : Graph.Kind} (h : kind? ts = some (kind, rest)) :
    ∃ word, Leaves [word] ts rest ∧ word.IsKeyword kind.keyword := by
  unfold kind? at h
  split at h
  · next t ts =>
    split at h
    · next hk =>
      cases h
      have hword := Token.keyword?_eq_some_iff.1 hk
      exact ⟨t, leaves_cons (marks_of_isKeyword hword) ts, hword⟩
    · next hk =>
      cases h
      have hword := Token.keyword?_eq_some_iff.1 hk
      exact ⟨t, leaves_cons (marks_of_isKeyword hword) ts, hword⟩
    · cases h
  · cases h

lemma leaves_afterId (ts : List Token) : ∃ id? : Option Token,
    Leaves id?.toList ts (afterId ts).2 ∧ (∀ t ∈ id?, t.id? = some (afterId ts).1) ∧
      (id? = none → (afterId ts).1 = Graph.defaultId) := by
  unfold afterId
  split
  · next t rest =>
    split
    · next id hid => exact ⟨some t, leaves_cons (marks_of_id? hid) rest, by simpa using hid, nofun⟩
    · exact ⟨none, .refl _, nofun, fun _ => rfl⟩
  · exact ⟨none, .refl _, nofun, fun _ => rfl⟩

/-- The marks of a header in front of its brace: `strict` or nothing, the word for the kind, and a
token for the id or nothing, which stands for the standard id. -/
def SpelledBy (header : Header) (ms : List Token) : Prop :=
  ∃ (strict? : Option Token) (word : Token) (id? : Option Token),
    ms = strict?.toList ++ word :: id?.toList ∧ (∀ t ∈ strict?, t.IsKeyword .strict) ∧
      header.strict = strict?.isSome ∧ word.IsKeyword header.kind.keyword ∧
        (∀ t ∈ id?, t.id? = some header.id) ∧ (id? = none → header.id = Graph.defaultId)

lemma leaves_match? {ts body : List Token} {header : Header}
    (h : match? ts = some (header, body)) :
    ∃ ms, header.SpelledBy ms ∧ Leaves ms ts (.leftBrace :: body) := by
  obtain ⟨strict?, hstrict, hword, hflag⟩ := leaves_afterStrict ts
  unfold match? at h
  dsimp only at h
  split at h
  · cases h
  · next kind rest hk =>
    obtain ⟨word, hkind, hname⟩ := leaves_kind? hk
    obtain ⟨id?, hid, hsome, hnone⟩ := leaves_afterId rest
    split at h
    · next hbrace =>
      cases h
      rw [hbrace] at hid
      exact ⟨_, ⟨strict?, word, id?, rfl, hword, hflag, hname, hsome, hnone⟩,
        hstrict.trans (hkind.trans hid)⟩
    · cases h

lemma match?_suffix {ts body : List Token} {header : Header}
    (h : match? ts = some (header, body)) : body <:+ ts := by
  obtain ⟨-, -, front, rfl, -⟩ := leaves_match? h
  exact (List.suffix_cons ..).trans (List.suffix_append ..)

lemma id_of_match? {ts body : List Token} {header : Header}
    (h : match? ts = some (header, body)) :
    header.id = Graph.defaultId ∨ ∃ t ∈ ts, t.id? = some header.id := by
  obtain ⟨ms, ⟨strict?, word, id?, hms, -, -, -, hsome, hnone⟩, front, rfl, hfront⟩ :=
    leaves_match? h
  cases id? with
  | none => exact Or.inl (hnone rfl)
  | some t =>
    have hmem : t ∈ marks front := by simp [hfront, hms]
    exact Or.inr ⟨t, List.mem_append_left _ (List.mem_filter.1 hmem).1, hsome t rfl⟩

/-! ### The body behind a header -/

lemma exists_match?_of_findFrom? {place : Place} {ts : List Token} {found : Header × List Token}
    (h : findFrom? place ts = some found) : ∃ us, us <:+ ts ∧ match? us = some found := by
  have skip {t : Token} {ts : List Token} (ih : ∃ us, us <:+ ts ∧ match? us = some found) :
      ∃ us, us <:+ t :: ts ∧ match? us = some found := by
    obtain ⟨us, hus, hmatch⟩ := ih
    exact ⟨us, hus.trans (List.suffix_cons ..), hmatch⟩
  fun_induction findFrom? place ts with
  | case1 => cases h
  | case2 _ ts ih => exact skip (ih h)
  | case3 _ ts _ ih => exact skip (ih h)
  | case4 _ _ ts _ ih => exact skip (ih h)
  | case5 ts ih => exact skip (ih h)
  | case6 _ t ts _ _ _ _ found' hf =>
    cases h
    exact ⟨t :: ts, List.suffix_rfl, hf⟩
  | case7 _ t ts _ _ _ _ _ ih => exact skip (ih h)

lemma findFrom?_suffix {place : Place} {ts body : List Token} {header : Header}
    (h : findFrom? place ts = some (header, body)) : body <:+ ts := by
  obtain ⟨us, hus, hmatch⟩ := exists_match?_of_findFrom? h
  exact (match?_suffix hmatch).trans hus

lemma id_of_find? {ts body : List Token} {header : Header} (h : find? ts = some (header, body)) :
    header.id = Graph.defaultId ∨ ∃ t ∈ ts, t.id? = some header.id := by
  obtain ⟨us, hus, hmatch⟩ := exists_match?_of_findFrom? h
  refine (id_of_match? hmatch).imp_right ?_
  rintro ⟨t, ht, hid⟩
  exact ⟨t, hus.subset ht, hid⟩

variable {t : Token} {ts : List Token}

/-! ### Where headers start -/

/-- The unquoted words that headers start with. -/
def Opens (t : Token) : Prop := t.IsKeyword .strict ∨ t.IsKeyword .graph ∨ t.IsKeyword .digraph

instance : DecidablePred Opens := fun t =>
  decidable_of_iff (t.keyword? = some .strict ∨ t.keyword? = some .graph ∨
    t.keyword? = some .digraph) (by simp [Opens, Token.keyword?_eq_some_iff])

lemma match?_eq_none (h : ¬ Opens t) (ts : List Token) : match? (t :: ts) = none := by
  simp only [Opens, not_or, ← Token.keyword?_eq_some_iff] at h
  obtain ⟨hstrict, hgraph, hdigraph⟩ := h
  have hkind : kind? (t :: ts) = none := by
    rw [kind?]
    split
    · contradiction
    · contradiction
    · rfl
  have hafter : afterStrict (t :: ts) = (false, t :: ts) := if_neg hstrict
  rw [match?, hafter]
  simp [hkind]

/-! ### Tokens behind a gap -/

/-- White space, comments and newlines, which may stand anywhere in a header. -/
def IsGap (t : Token) : Prop := t.isTrivia ∨ t = .newline

lemma skipGap_cons_of_isGap (h : IsGap t) (ts : List Token) : skipGap (t :: ts) = skipGap ts :=
  List.dropWhile_cons_of_pos (by simpa [IsGap] using h)

lemma skipGap_cons_of_not_isGap (h : ¬ IsGap t) (ts : List Token) : skipGap (t :: ts) = t :: ts :=
  List.dropWhile_cons_of_neg (by simpa [IsGap] using h)

/-- The tokens start behind the gap. -/
def AtMark (ts : List Token) : Prop := ∀ t ∈ ts.head?, ¬ IsGap t

lemma atMark_skipGap (ts : List Token) : AtMark (skipGap ts) := by
  induction ts with
  | nil => simp [AtMark, skipGap]
  | cons t ts ih =>
    by_cases h : IsGap t
    · rw [skipGap_cons_of_isGap h]
      exact ih
    · rw [skipGap_cons_of_not_isGap h]
      simpa [AtMark] using h

lemma tidy_cons_of_not_isGap (h : ¬ IsGap t) (ts : List Token) : tidy (t :: ts) = t :: tidy ts := by
  refine Token.settle_mark ?_ ?_ ?_ _
  · rintro rfl
    exact h (Or.inr rfl)
  · rintro text rfl
    exact h (Or.inl rfl)
  · rintro text rfl
    exact h (Or.inl rfl)

lemma skipGap_dropBlank (ts : List Token) : skipGap (Token.dropBlank ts) = skipGap ts := by
  induction ts with
  | nil => rfl
  | cons t ts ih =>
    cases t with
    | blank text =>
      rw [skipGap_cons_of_isGap (Or.inl rfl), ← ih]
      rfl
    | _ => rfl

lemma skipGap_tidy (ts : List Token) : skipGap (tidy ts) = tidy (skipGap ts) := by
  induction ts with
  | nil => rfl
  | cons t ts ih =>
    by_cases h : IsGap t
    · rw [Token.tidy_cons, skipGap_cons_of_isGap h, ← ih]
      cases t with
      | newline =>
        rw [Token.settle_newline]
        split
        · exact skipGap_dropBlank _
        · rw [skipGap_cons_of_isGap h, skipGap_dropBlank]
      | blank text =>
        rw [settle]
        split
        · rfl
        · exact skipGap_cons_of_isGap h _
      | lineComment text => rfl
      | blockComment text => exact skipGap_cons_of_isGap h _
      | _ => simp [IsGap, Token.isTrivia] at h
    · rw [tidy_cons_of_not_isGap h, skipGap_cons_of_not_isGap h, skipGap_cons_of_not_isGap h,
        tidy_cons_of_not_isGap h]

/-! ### Headers in tidy tokens -/

lemma not_opens_of_isGap (h : IsGap t) : ¬ Opens t := by
  have hname : ∀ name, t ≠ .identifier name := by
    rintro name rfl
    rcases h with h | h <;> cases h
  rintro (⟨name, ht, -⟩ | ⟨name, ht, -⟩ | ⟨name, ht, -⟩) <;> exact hname name ht

lemma afterStrict_tidy (h : AtMark ts) :
    afterStrict (tidy ts) = ((afterStrict ts).1, tidy (afterStrict ts).2) ∧
      AtMark (afterStrict ts).2 := by
  cases ts with
  | nil => exact ⟨rfl, h⟩
  | cons t ts =>
    rw [tidy_cons_of_not_isGap (h t rfl), afterStrict, afterStrict]
    split
    · exact ⟨by rw [skipGap_tidy], atMark_skipGap ts⟩
    · exact ⟨by rw [tidy_cons_of_not_isGap (h t rfl)], h⟩

lemma kind?_tidy (h : AtMark ts) :
    kind? (tidy ts) = (kind? ts).map fun p => (p.1, tidy p.2) := by
  cases ts with
  | nil => rfl
  | cons t ts =>
    rw [tidy_cons_of_not_isGap (h t rfl), kind?, kind?]
    split <;> simp [skipGap_tidy]

lemma atMark_of_kind? {p : Graph.Kind × List Token} (h : kind? ts = some p) : AtMark p.2 := by
  unfold kind? at h
  split at h
  · split at h
    · cases h
      exact atMark_skipGap _
    · cases h
      exact atMark_skipGap _
    · cases h
  · cases h

lemma afterId_tidy (h : AtMark ts) :
    afterId (tidy ts) = ((afterId ts).1, tidy (afterId ts).2) ∧ AtMark (afterId ts).2 := by
  cases ts with
  | nil => exact ⟨rfl, h⟩
  | cons t ts =>
    rw [tidy_cons_of_not_isGap (h t rfl), afterId, afterId]
    split
    · exact ⟨by rw [skipGap_tidy], atMark_skipGap ts⟩
    · exact ⟨by rw [tidy_cons_of_not_isGap (h t rfl)], h⟩

lemma match?_tidy (h : AtMark ts) :
    match? (tidy ts) = (match? ts).map fun p => (p.1, tidy p.2) := by
  obtain ⟨hstrict, hmark⟩ := afterStrict_tidy h
  unfold match?
  dsimp only
  rw [hstrict, kind?_tidy hmark]
  cases hkind : kind? (afterStrict ts).2 with
  | none => rfl
  | some p =>
    obtain ⟨hid, hbrace⟩ := afterId_tidy (atMark_of_kind? hkind)
    dsimp only [Option.map_some]
    rw [hid]
    -- the brace, if it is there, is the next token in both
    generalize (afterId p.2).2 = us at hbrace
    cases us with
    | nil => rfl
    | cons u us =>
      rw [tidy_cons_of_not_isGap (hbrace u rfl)]
      cases u <;> rfl

/-! ### The search in tidy tokens -/

lemma findFrom?_newline (place : Place) (ts : List Token) :
    findFrom? place (.newline :: ts) = findFrom? .start ts := by
  cases place <;> rfl

lemma findFrom?_blank (place : Place) (text : String) (ts : List Token) :
    findFrom? place (.blank text :: ts) = findFrom? place ts := by
  cases place <;> rfl

lemma findFrom?_hash (h : t ≠ .newline) (ts : List Token) :
    findFrom? .hash (t :: ts) = findFrom? .hash ts := by
  rw [findFrom?]
  exact h

lemma findFrom?_mark {place : Place} (hn : t ≠ .newline) (hh : place ≠ .hash)
    (hb : ∀ text, t ≠ .blank text) (hm : place = .start → t ≠ .unknown '#') (ts : List Token) :
    findFrom? place (t :: ts) = (match? (t :: ts)).or (findFrom? .inside ts) := by
  rw [findFrom?]
  · cases match? (t :: ts) <;> rfl
  · exact hn
  · exact hb
  · exact hh
  · exact hm

lemma findFrom?_of_atBreak (h : Token.atBreak ts) (p q : Place) :
    findFrom? p ts = findFrom? q ts := by
  unfold Token.atBreak at h
  split at h
  · cases p <;> cases q <;> rfl
  · rw [findFrom?_newline, findFrom?_newline]
  · cases h

lemma findFrom?_dropBlank (place : Place) (ts : List Token) :
    findFrom? place (Token.dropBlank ts) = findFrom? place ts := by
  induction ts with
  | nil => rfl
  | cons t ts ih =>
    cases t with
    | blank text => rw [findFrom?_blank, ← ih]; rfl
    | _ => rfl

lemma findFrom?_settle_newline (place : Place) (ts : List Token) :
    findFrom? place (settle .newline ts) = findFrom? .start ts := by
  rw [Token.settle_newline]
  split
  · next h => rw [findFrom?_of_atBreak h place .start, findFrom?_dropBlank]
  · rw [findFrom?_newline, findFrom?_dropBlank]

lemma findFrom?_settle_blank (place : Place) (text : String) (ts : List Token) :
    findFrom? place (settle (.blank text) ts) = findFrom? place ts := by
  rw [settle]
  split
  · rfl
  · exact findFrom?_blank place text ts

lemma findFrom?_tidy {place : Place} (h : Token.CommentsEndLines ts) :
    findFrom? place (tidy ts) = (findFrom? place ts).map fun p => (p.1, tidy p.2) := by
  fun_induction findFrom? place ts with
  | case1 place => cases place <;> rfl
  | case2 place ts ih => rw [Token.tidy_cons, findFrom?_settle_newline, ih h.tail]
  | case3 t ts hn ih =>
    rw [← ih h.tail, Token.tidy_cons]
    by_cases hb : ∃ text, t = .blank text
    · obtain ⟨text, rfl⟩ := hb
      exact findFrom?_settle_blank ..
    · by_cases hc : ∃ text, t = .lineComment text
      · obtain ⟨text, rfl⟩ := hc
        rfl
      · rw [Token.settle_mark hn (not_exists.1 hb) (not_exists.1 hc), findFrom?_hash hn]
  | case4 place text ts hp ih => rw [Token.tidy_cons, findFrom?_settle_blank, ih h.tail]
  | case5 ts ih =>
    rw [← ih h.tail]
    rfl
  | case6 place t ts hn hh hb hm found hf =>
    have hgap : ¬ IsGap t := fun hgap => by
      rw [match?_eq_none (not_opens_of_isGap hgap)] at hf
      cases hf
    have hmark : AtMark (t :: ts) := by simpa [AtMark] using hgap
    have hmatch := match?_tidy hmark
    rw [tidy_cons_of_not_isGap hgap, hf] at hmatch
    rw [tidy_cons_of_not_isGap hgap, findFrom?_mark hn hh hb hm, hmatch]
    rfl
  | case7 place t ts hn hh hb hm hf ih =>
    rw [← ih h.tail]
    by_cases hc : ∃ text, t = .lineComment text
    · -- what follows is the end of the line
      obtain ⟨text, rfl⟩ := hc
      exact findFrom?_of_atBreak (Token.atBreak_tidy (Token.atBreak_of_commentsEndLines h)) _ _
    · have hmatch : match? (t :: tidy ts) = none := by
        by_cases hgap : IsGap t
        · exact match?_eq_none (not_opens_of_isGap hgap) _
        · have hmark : AtMark (t :: ts) := by simpa [AtMark] using hgap
          have hmatch := match?_tidy hmark
          rwa [tidy_cons_of_not_isGap hgap, hf] at hmatch
      rw [Token.tidy_cons, Token.settle_mark hn hb (not_exists.1 hc),
        findFrom?_mark hn hh hb hm, hmatch, Option.none_or]

/-- **Tidy headers**: noise at the ends of lines does not change which header is found. -/
lemma find?_tidy (h : Token.CommentsEndLines ts) :
    find? (tidy ts) = (find? ts).map fun p => (p.1, tidy p.2) :=
  findFrom?_tidy h

/-! ### The search behind a banner -/

/-- The first mark of the line is `#`. -/
def IsHashLine (line : List Token) : Prop := (Token.dropBlank line).head? = some (.unknown '#')

instance : DecidablePred IsHashLine := fun line =>
  inferInstanceAs (Decidable ((Token.dropBlank line).head? = some (.unknown '#')))

/-- Nothing starts a header on these lines, but for lines with `#` in front. -/
def IsBanner (lines : List (List Token)) : Prop :=
  ∀ line ∈ lines, IsHashLine line ∨ ∀ t ∈ line, ¬ Opens t

instance : DecidablePred IsBanner := fun lines =>
  inferInstanceAs (Decidable (∀ line ∈ lines, IsHashLine line ∨ ∀ t ∈ line, ¬ Opens t))

variable {line : List Token}

lemma findFrom?_hash_append (hn : .newline ∉ line) (ts : List Token) :
    findFrom? .hash (line ++ .newline :: ts) = findFrom? .start ts := by
  induction line with
  | nil => rfl
  | cons t line ih =>
    rw [List.mem_cons, not_or] at hn
    rw [List.cons_append, findFrom?_hash (Ne.symm hn.1), ih hn.2]

lemma findFrom?_append_of_isHashLine (hn : .newline ∉ line) (h : IsHashLine line)
    (ts : List Token) : findFrom? .start (line ++ .newline :: ts) = findFrom? .start ts := by
  induction line with
  | nil => rfl
  | cons t line ih =>
    rw [List.mem_cons, not_or] at hn
    by_cases hb : ∃ text, t = .blank text
    · obtain ⟨text, rfl⟩ := hb
      rw [List.cons_append, findFrom?_blank, ih hn.2 h]
    · rw [IsHashLine, Token.dropBlank_cons (not_exists.1 hb)] at h
      rw [Option.some.inj h]
      exact findFrom?_hash_append hn.2 ts

lemma findFrom?_append_of_not_opens (hn : .newline ∉ line) (h : ∀ t ∈ line, ¬ Opens t)
    (place : Place) (ts : List Token) :
    findFrom? place (line ++ .newline :: ts) = findFrom? .start ts := by
  induction line generalizing place with
  | nil => exact findFrom?_newline place ts
  | cons t line ih =>
    rw [List.mem_cons, not_or] at hn
    have hmore := ih hn.2 fun u hu => h u (List.mem_cons_of_mem _ hu)
    -- by the cases of the search: a blank, a line with `#` in front, a `#`, another mark
    rw [List.cons_append]
    by_cases hb : ∃ text, t = .blank text
    · obtain ⟨text, rfl⟩ := hb
      rw [findFrom?_blank, hmore]
    · by_cases hh : place = .hash
      · rw [hh, findFrom?_hash (Ne.symm hn.1), hmore]
      · by_cases hm : place = .start ∧ t = .unknown '#'
        · obtain ⟨rfl, rfl⟩ := hm
          exact hmore .hash
        · rw [findFrom?_mark (Ne.symm hn.1) hh (not_exists.1 hb) (not_and.1 hm),
            match?_eq_none (h t List.mem_cons_self), Option.none_or, hmore]

lemma find?_flatMap_append {lines : List (List Token)} (hn : ∀ line ∈ lines, .newline ∉ line)
    (h : IsBanner lines) (ts : List Token) :
    find? ((lines.flatMap fun line => line ++ [.newline]) ++ ts) = find? ts := by
  induction lines with
  | nil => rfl
  | cons line lines ih =>
    have hmore := ih (fun l hl => hn l (List.mem_cons_of_mem _ hl))
      (fun l hl => h l (List.mem_cons_of_mem _ hl))
    rw [List.flatMap_cons, List.append_assoc, List.append_assoc, List.singleton_append, ← hmore]
    rcases h line List.mem_cons_self with hline | hline
    · exact findFrom?_append_of_isHashLine (hn line List.mem_cons_self) hline _
    · exact findFrom?_append_of_not_opens (hn line List.mem_cons_self) hline .start _

/-- **Headers behind a banner**: the header behind a banner is the one that is found without the
banner. -/
lemma find?_banner {banner : List Token} (h : IsBanner (banner.splitOn .newline))
    (ts : List Token) : find? (banner ++ .newline :: ts) = find? ts := by
  have hn : ∀ line ∈ banner.splitOn .newline, .newline ∉ line := fun _ hl =>
    (mem_of_mem_splitOn hl).1
  have hlines : ∀ lines : List (List Token), lines ≠ [] →
      [.newline].intercalate lines ++ .newline :: ts =
        (lines.flatMap fun line => line ++ [.newline]) ++ ts := by
    intro lines hne
    obtain ⟨line, lines, rfl⟩ := List.exists_cons_of_ne_nil hne
    induction lines generalizing line with
    | nil => simp
    | cons next lines ih =>
      rw [List.intercalate_cons_cons, List.append_assoc, ih next (List.cons_ne_nil _ _)]
      simp
  rw [← find?_flatMap_append hn h ts, ← hlines _ (List.splitOn_ne_nil _ _),
    List.intercalate_splitOn]

end Header

end DotDrawing
