import DotDrawing.AttributeList
import DotDrawing.Proofs.Token.Comments

/-!
Comments in attribute lists.

White space and comments beside a lone quoted text are not part of what the side says, so a comment
there leaves all attributes as they are. Beside anything else a comment is part of the source text
that the side stands for. Main statement: `parse_comment`.
-/

namespace DotDrawing.AttributeList

/-! ### What a list sets -/

/-- The keys and values of a list, in order and with repetitions. -/
def pairs (ts : List Token) : List (String × String) := (entries ts).filterMap Entry.pair?

/-- What an entry sets: nothing if the key is empty. -/
def pairOf (key value : String) : List (String × String) :=
  if key = "" then [] else [(key, value)]

lemma isSeparator_iff {t : Token} : isSeparator t ↔ t = .comma ∨ t = .semicolon := by
  simp [isSeparator]

lemma read_eq (ts : List Token) : read ts = Dict.ofList (pairs ts) := rfl

variable {ts key value front back : List Token}

/-- The tokens are none or end with a separator, so an entry starts behind them. -/
def StartsEntry (ts : List Token) : Prop := ∀ t ∈ ts.getLast?, isSeparator t

/-- The tokens are none or start with a separator, so an entry ends in front of them. -/
def EndsEntry (ts : List Token) : Prop := ∀ t ∈ ts.head?, isSeparator t

lemma pairs_nil : pairs [] = [] := rfl

lemma pairs_separator {t : Token} (ht : isSeparator t) (front back : List Token) :
    pairs (front ++ t :: back) = pairs front ++ pairs back := by
  rw [pairs, entries, List.splitOnP_append_cons _ _ ht, List.filterMap_append,
    List.filterMap_append]
  rfl

lemma pairs_append_of_startsEntry (h : StartsEntry front) (ts : List Token) :
    pairs (front ++ ts) = pairs front ++ pairs ts := by
  rcases List.eq_nil_or_concat' front with rfl | ⟨l, t, rfl⟩
  · rfl
  · have ht : isSeparator t := h t (by simp)
    rw [List.append_assoc, List.singleton_append, pairs_separator ht, pairs_separator ht,
      pairs_nil, List.append_nil]

lemma pairs_append_of_endsEntry (h : EndsEntry back) (ts : List Token) :
    pairs (ts ++ back) = pairs ts ++ pairs back := by
  cases back with
  | nil => rw [List.append_nil, pairs_nil, List.append_nil]
  | cons t back =>
    have ht : isSeparator t := h t rfl
    have hback : pairs (t :: back) = pairs back := pairs_separator ht [] back
    rw [pairs_separator ht, hback]

/-- Tokens of a key: an entry goes on behind them, and its first `=` is not among them. -/
def IsKey (ts : List Token) : Prop := ∀ t ∈ ts, isSeparator t = false ∧ t ≠ .equals

/-- Tokens of a value: an entry goes on behind them. -/
def IsValue (ts : List Token) : Prop := ∀ t ∈ ts, isSeparator t = false

lemma entry?_eq (hkey : IsKey key) (value : List Token) : entry? (key ++ .equals :: value) =
    some (if side key = "" then .keyless (Token.sourceText (key ++ .equals :: value))
      else .pair (side key) (side value)) := by
  have hgo : ∀ t ∈ key, decide (t ≠ .equals) = true := fun t ht => decide_eq_true (hkey t ht).2
  have htake : (key ++ .equals :: value).takeWhile (· ≠ .equals) = key := by
    rw [List.takeWhile_append_of_pos hgo, List.takeWhile_cons_of_neg (by simp), List.append_nil]
  have hdrop : (key ++ .equals :: value).dropWhile (· ≠ .equals) = .equals :: value := by
    rw [List.dropWhile_append_of_pos hgo, List.dropWhile_cons_of_neg (by simp)]
  unfold entry?
  rw [htake, hdrop]
  dsimp only
  split_ifs <;> rfl

lemma pairs_entry (hkey : IsKey key) (hvalue : IsValue value) :
    pairs (key ++ .equals :: value) = pairOf (side key) (side value) := by
  have hrun : ∀ t ∈ key ++ .equals :: value, isSeparator t = false := by
    intro t ht
    rcases List.mem_append.1 ht with ht | ht
    · exact (hkey t ht).1
    · rcases List.mem_cons.1 ht with rfl | ht
      · rfl
      · exact hvalue t ht
  have hentries : entries (key ++ .equals :: value) =
      [if side key = "" then .keyless (Token.sourceText (key ++ .equals :: value))
        else .pair (side key) (side value)] := by
    rw [entries, List.splitOnP_eq_singleton hrun, List.filterMap_cons, entry?_eq hkey]
    rfl
  rw [pairs, hentries, pairOf]
  split_ifs <;> rfl

lemma pairs_around_entry (hfront : StartsEntry front) (hkey : IsKey key) (hvalue : IsValue value)
    (hback : EndsEntry back) : pairs (front ++ (key ++ .equals :: value) ++ back) =
      pairs front ++ pairOf (side key) (side value) ++ pairs back := by
  rw [pairs_append_of_endsEntry hback, pairs_append_of_startsEntry hfront,
    pairs_entry hkey hvalue]

lemma exists_value (ts : List Token) : ∃ value back, ts = value ++ back ∧ IsValue value ∧
    EndsEntry back := by
  refine ⟨ts.takeWhile (!isSeparator ·), ts.dropWhile (!isSeparator ·),
    List.takeWhile_append_dropWhile.symm, fun t ht => ?_, fun t ht => ?_⟩
  · simpa using List.mem_takeWhile_imp ht
  · have hstop := List.head?_dropWhile_not (!isSeparator ·) ts
    rw [Option.mem_def.1 ht] at hstop
    simpa using hstop

/-! ### Sides -/

/-- The tokens in the middle are one side of an `=`: a key up to the first `=` of its entry, or a
value from there to the end of the entry. -/
inductive IsSide : List Token → List Token → List Token → Prop
  | key {front key rest : List Token} (hfront : StartsEntry front) (hkey : IsKey key) :
    IsSide front key (.equals :: rest)
  | value {front key value back : List Token} (hfront : StartsEntry front) (hkey : IsKey key)
    (hvalue : IsValue value) (hback : EndsEntry back) :
    IsSide (front ++ key ++ [.equals]) value back

variable {before inside after : List Token}

lemma not_isSeparator_of_isTrivia {t : Token} (h : t.isTrivia) :
    isSeparator t = false ∧ t ≠ .equals := by
  cases t <;> simp_all [isSeparator, Token.isTrivia]

/-- Of a side, what it stands for counts, and with comments in it what it stands for then. -/
lemma exists_pairs_eq (h : IsSide before inside after) :
    ∃ f : String → List (String × String), ∀ inside' : List Token,
      (∀ t ∈ inside', t ∈ inside ∨ t.isTrivia) →
        pairs (before ++ inside' ++ after) = f (side inside') := by
  cases h with
  | @key _ _ rest hfront hkey =>
    -- the side is a key; its value is the same for all
    obtain ⟨value, back, rfl, hvalue, hback⟩ := exists_value rest
    refine ⟨fun key => pairs before ++ pairOf key (side value) ++ pairs back, fun key' hkey' => ?_⟩
    have hmore : IsKey key' := fun t ht =>
      (hkey' t ht).elim (hkey t) not_isSeparator_of_isTrivia
    have hlist : before ++ key' ++ .equals :: (value ++ back) =
        before ++ (key' ++ .equals :: value) ++ back := by simp
    rw [hlist]
    exact pairs_around_entry hfront hmore hvalue hback
  | @value front key _ _ hfront hkey hvalue hback =>
    refine ⟨fun value => pairs front ++ pairOf (side key) value ++ pairs after,
      fun value' hvalue' => ?_⟩
    have hmore : IsValue value' := fun t ht =>
      (hvalue' t ht).elim (hvalue t) fun h => (not_isSeparator_of_isTrivia h).1
    have hlist : front ++ key ++ [.equals] ++ value' ++ after =
        front ++ (key ++ .equals :: value') ++ after := by simp
    rw [hlist]
    exact pairs_around_entry hfront hkey hmore hback

/-- The tokens say one quoted text and nothing else. -/
def IsQuote (ts : List Token) : Prop := ∃ text, ts.filter (!·.isTrivia) = [.quoted text]

lemma side_eq_of_filter_eq {text : String} (h : ts.filter (!·.isTrivia) = [.quoted text]) :
    side ts = text := by
  rw [side, h]

lemma side_eq_sourceText (h : ¬ IsQuote ts) : side ts = Token.sourceText ts := by
  unfold side
  split
  · next text htext => exact absurd ⟨text, htext⟩ h
  · rfl

/-! ### Comments beside a side -/

section

variable {x y ws ws' : List Token} {gap gap' : List Char} {comment : String}

lemma isTrivia_of_mem_scan_gap (hgap : ∀ c ∈ gap, Token.isLineBlank c) :
    ∀ t ∈ Token.scan gap, t.isTrivia := by
  intro t ht
  rcases Token.scan_of_isLineBlank hgap with rfl | hscan
  · rw [Token.scan_nil] at ht
    cases ht
  · rw [hscan, List.mem_singleton] at ht
    rw [ht]
    rfl

lemma isTrivia_of_mem_comment (comment : String)
    (hgap : ∀ c ∈ gap ++ gap', Token.isLineBlank c) :
    ∀ t ∈ Token.scan gap ++ .blockComment comment :: Token.scan gap', t.isTrivia := by
  intro t ht
  rcases List.mem_append.1 ht with ht | ht
  · exact isTrivia_of_mem_scan_gap (fun c hc => hgap c (List.mem_append_left _ hc)) t ht
  · rcases List.mem_cons.1 ht with rfl | ht
    · rfl
    · exact isTrivia_of_mem_scan_gap (fun c hc => hgap c (List.mem_append_right _ hc)) t ht

lemma filter_isTrivia (hws : ∀ t ∈ ws, t.isTrivia) :
    (x ++ ws ++ y).filter (!·.isTrivia) = (x ++ y).filter (!·.isTrivia) := by
  have hnone : ws.filter (!·.isTrivia) = [] := by
    rw [List.filter_eq_nil_iff]
    intro t ht
    simp [hws t ht]
  rw [List.filter_append, List.filter_append, hnone, List.append_nil, List.filter_append]

/-- Beside a lone quoted text, white space and comments do not count. -/
lemma pairs_eq_of_isQuote (h : IsSide before (x ++ y) after) (hquote : IsQuote (x ++ y))
    (hws : ∀ t ∈ ws, t.isTrivia) (hws' : ∀ t ∈ ws', t.isTrivia) :
    pairs (before ++ (x ++ ws ++ y) ++ after) = pairs (before ++ (x ++ ws' ++ y) ++ after) := by
  obtain ⟨text, htext⟩ := hquote
  obtain ⟨f, hf⟩ := exists_pairs_eq h
  have hside {vs : List Token} (hvs : ∀ t ∈ vs, t.isTrivia) :
      pairs (before ++ (x ++ vs ++ y) ++ after) = f text := by
    have hmem : ∀ t ∈ x ++ vs ++ y, t ∈ x ++ y ∨ t.isTrivia := by
      intro t ht
      simp only [List.mem_append] at ht ⊢
      rcases ht with (ht | ht) | ht
      · exact Or.inl (Or.inl ht)
      · exact Or.inr (hvs t ht)
      · exact Or.inl (Or.inr ht)
    rw [hf _ hmem, side_eq_of_filter_eq ((filter_isTrivia hvs).trans htext)]
  rw [hside hws, hside hws']

lemma endsFinally_of_isSide (h : IsSide before (x ++ y) after) (hquote : IsQuote (x ++ y)) :
    ∀ t ∈ (before ++ x).getLast?, t.isTrivia ∨ t.EndsFinally := by
  intro t ht
  rw [List.getLast?_append] at ht
  cases hx : x.getLast? with
  | some u =>
    rw [hx] at ht
    obtain rfl : u = t := Option.some.inj ht
    by_cases htrivia : u.isTrivia
    · exact Or.inl htrivia
    · -- the quoted token, the only one of the side that counts
      obtain ⟨text, htext⟩ := hquote
      have hu : u ∈ (x ++ y).filter (!·.isTrivia) := by
        refine List.mem_filter.2 ⟨List.mem_append_left _ (List.mem_of_getLast? hx), ?_⟩
        simpa using htrivia
      rw [htext, List.mem_singleton] at hu
      rw [hu]
      exact Or.inr (Token.endsFinally_quoted text)
  | none =>
    -- the side starts here: in front stands a separator or the equals sign, or nothing
    rw [hx, Option.none_or] at ht
    right
    cases h with
    | key hfront hkey =>
      rcases isSeparator_iff.1 (hfront t ht) with rfl | rfl
      · exact ⟨[], ',', rfl, rfl, fun _ => by decide⟩
      · exact ⟨[], ';', rfl, rfl, fun _ => by decide⟩
    | value hfront hkey hvalue hback =>
      rw [List.getLast?_concat] at ht
      obtain rfl := Option.some.inj ht
      exact ⟨[], '=', rfl, rfl, fun _ => by decide⟩

/-- The characters of a text that are not blank. -/
def visible (cs : List Char) : Nat := cs.countP (!Text.isBlank ·)

lemma visible_append (cs ds : List Char) : visible (cs ++ ds) = visible cs + visible ds :=
  List.countP_append

lemma visible_eq_zero {cs : List Char} (h : ∀ c ∈ cs, Text.isBlank c) : visible cs = 0 := by
  rw [visible, List.countP_eq_zero]
  intro c hc
  simp [h c hc]

lemma visible_trim (cs : List Char) : visible (Text.trim cs) = visible cs := by
  obtain ⟨a, e, hcs, ha, he⟩ := Text.exists_eq_append_trim_append cs
  calc visible (Text.trim cs)
    _ = visible a + visible (Text.trim cs) + visible e := by
      rw [visible_eq_zero ha, visible_eq_zero he]
      omega
    _ = visible cs := by rw [← visible_append, ← visible_append, ← hcs]

/-- Other sides stand for another text with a comment in them. -/
lemma side_ne_of_not_isQuote (h : ¬ IsQuote (x ++ y)) {blank : List Char}
    (hblank : ∀ c ∈ blank, Token.isLineBlank c)
    (hgap : ∀ c ∈ gap ++ gap', Token.isLineBlank c) :
    side (x ++ (Token.scan gap ++ .blockComment comment :: Token.scan gap') ++ y) ≠
      side (x ++ Token.scan blank ++ y) := by
  have hquote {ws : List Token} (hws : ∀ t ∈ ws, t.isTrivia) : ¬ IsQuote (x ++ ws ++ y) := by
    rintro ⟨text, htext⟩
    exact h ⟨text, (filter_isTrivia hws).symm.trans htext⟩
  rw [side_eq_sourceText (hquote (isTrivia_of_mem_comment comment hgap)),
    side_eq_sourceText (hquote (isTrivia_of_mem_scan_gap hblank))]
  -- the comment has visible characters that the blank has not
  intro heq
  have hcount := congrArg (fun text : String => visible text.toList) heq
  have hnone {cs : List Char} (hcs : ∀ c ∈ cs, Token.isLineBlank c) : visible cs = 0 := by
    refine visible_eq_zero fun c hc => ?_
    have hc := hcs c hc
    rw [Token.isLineBlank, Bool.and_eq_true] at hc
    exact hc.1
  have hcomment : 0 < visible (Token.blockComment comment).spelling := by
    rw [visible, List.countP_pos_iff]
    exact ⟨'/', List.mem_cons_self, rfl⟩
  have hgaps := hnone hgap
  rw [visible_append] at hgaps
  simp only [Token.sourceText, String.toList_ofList, visible_trim, Token.spellings_append,
    Token.spellings_cons, Token.spellings_scan, visible_append, hnone hblank] at hcount
  omega

end

/-- **Comments beside sides.** A comment in a key or a value that is a lone quoted text can be taken
out of a list, whatever white space is left there, without a change to its attributes. Any other key
or value stands for another text without the comment. -/
theorem parse_comment {s s' : String} {before x y after : List Token}
    (hside : IsSide before (x ++ y) after)
    (h : Token.Commented s s' (before ++ x) (y ++ after)) :
    (IsQuote (x ++ y) → parse s' = parse s) ∧
      (¬ IsQuote (x ++ y) → ∀ (blank gap gap' : List Char) (comment : String),
        (∀ c ∈ blank, Token.isLineBlank c) → (∀ c ∈ gap ++ gap', Token.isLineBlank c) →
        side (x ++ (Token.scan gap ++ .blockComment comment :: Token.scan gap') ++ y) ≠
          side (x ++ Token.scan blank ++ y)) := by
  refine ⟨fun hquote => ?_, fun hquote _ _ _ _ => side_ne_of_not_isQuote hquote⟩
  obtain ⟨blank, hblank, hs⟩ := Token.ofString_of_commented h (endsFinally_of_isSide hside hquote)
  obtain ⟨gap, gap', comment, hgap, hs'⟩ := h.commented
  have hpairs := pairs_eq_of_isQuote hside hquote (isTrivia_of_mem_comment comment hgap)
    (isTrivia_of_mem_scan_gap hblank)
  have hlist : Token.ofString s = before ++ (x ++ Token.scan blank ++ y) ++ after := by
    rw [hs]
    simp
  have hlist' : Token.ofString s' =
      before ++ (x ++ (Token.scan gap ++ .blockComment comment :: Token.scan gap') ++ y) ++
        after := by
    rw [hs']
    simp
  rw [parse, parse, hlist, hlist', read_eq, read_eq, hpairs]

lemma isSide_red : IsSide ([] ++ [.identifier "color"] ++ [.equals]) ([.identifier "red"] ++ []) [] :=
  .value (by simp [StartsEntry]) (by simp [IsKey, isSeparator]) (by simp [IsValue, isSeparator])
    (by simp [EndsEntry])

lemma commented_red : Token.Commented "color=red" "color=red /* c */"
    ([] ++ [.identifier "color"] ++ [.equals] ++ [.identifier "red"]) ([] ++ []) :=
  ⟨⟨[], nofun, by decide⟩, ⟨[' '], [], " c ", List.all_eq_true.1 rfl, by decide +kernel⟩, by simp,
    by simp⟩

/-- A comment with marks of lists in it, behind a quoted key, and one behind a value that has no
quotes. -/
theorem parse_comment_marks :
    parse "x=1; \"a b\" /* = ; */ = \"c, d\"" = parse "x=1; \"a b\"= \"c, d\"" ∧
      side [.identifier "red", .blank " ", .blockComment " c "] ≠ side [.identifier "red"] := by
  have hside : IsSide [.identifier "x", .equals, .numeral "1", .semicolon]
      ([.blank " ", .quoted "a b"] ++ []) [.equals, .blank " ", .quoted "c, d"] :=
    .key (by simp [StartsEntry, isSeparator]) (by simp [IsKey, isSeparator])
  have hcommented : Token.Commented "x=1; \"a b\"= \"c, d\"" "x=1; \"a b\" /* = ; */ = \"c, d\""
      ([.identifier "x", .equals, .numeral "1", .semicolon] ++ [.blank " ", .quoted "a b"])
      ([] ++ [.equals, .blank " ", .quoted "c, d"]) :=
    ⟨⟨[], nofun, by decide⟩,
      ⟨[' '], [' '], " = ; ", List.all_eq_true.1 rfl, by decide +kernel⟩, by simp, by simp⟩
  have hred : ¬ IsQuote ([.identifier "red"] ++ []) := by
    rintro ⟨text, htext⟩
    cases htext
  refine ⟨(parse_comment hside hcommented).1 ⟨"a b", rfl⟩, ?_⟩
  have hne := (parse_comment isSide_red commented_red).2 hred [] [' '] [] " c " nofun
    (List.all_eq_true.1 rfl)
  have hscan : Token.scan [' '] = [.blank " "] := by decide +kernel
  simpa [hscan] using hne

/-- Beside a text without quotes a comment counts. -/
theorem not_parse_comment :
    ¬ ∀ (s s' : String) (before x y after : List Token), IsSide before (x ++ y) after →
      Token.Commented s s' (before ++ x) (y ++ after) → parse s' = parse s := by
  intro h
  have hne : parse "color=red /* c */" ≠ parse "color=red" := by decide +kernel
  exact hne (h _ _ _ _ _ _ isSide_red commented_red)

end DotDrawing.AttributeList
