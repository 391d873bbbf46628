import DotDrawing.Proofs.Header.Search

/-!
The first header.

At each index the search knows whether the line so far starts with `#`, starts with another mark or
is blank (`Place.Fits`). So it passes over the lines with `#` in front and takes the header at the
least index that is left (`findFrom?_first`). Main statement: `find?_first`.
-/

namespace DotDrawing.Header

/-! ### The line of an index -/

lemma drop_succ_of_drop {α : Type} {as bs : List α} {a : α} {i : ℕ} (h : as.drop i = a :: bs) :
    as.drop (i + 1) = bs := by rw [← List.tail_drop, h, List.tail_cons]

lemma take_succ_of_drop {α : Type} {as bs : List α} {a : α} {i : ℕ} (h : as.drop i = a :: bs) :
    as.take (i + 1) = as.take i ++ [a] := by
  rw [List.take_add, h, List.take_succ_cons, List.take_zero]

/-- The tokens in front of the next newline. -/
def restOfLine (ts : List Token) : List Token := ts.takeWhile (· ≠ .newline)

/-- The line that the token at an index stands in. A newline stands in the line that it ends. -/
def lineAt (ts : List Token) (i : ℕ) : List Token :=
  (restOfLine (ts.take i).reverse).reverse ++ restOfLine (ts.drop i)

/-- The first mark of the line of the index is `#`. -/
def OnHashLine (ts : List Token) (i : ℕ) : Prop := IsHashLine (lineAt ts i)

variable {ts us body : List Token} {t : Token} {i : ℕ} {header : Header}

lemma restOfLine_cons (h : t ≠ .newline) (ts : List Token) :
    restOfLine (t :: ts) = t :: restOfLine ts := List.takeWhile_cons_of_pos (by simpa using h)

lemma lineAt_succ_newline (h : ts.drop i = .newline :: us) : lineAt ts (i + 1) = restOfLine us := by
  rw [lineAt, drop_succ_of_drop h, take_succ_of_drop h, List.reverse_append]
  rfl

lemma lineAt_succ (h : ts.drop i = t :: us) (hn : t ≠ .newline) :
    lineAt ts (i + 1) = lineAt ts i := by
  calc lineAt ts (i + 1)
    _ = (restOfLine (t :: (ts.take i).reverse)).reverse ++ restOfLine us := by
      rw [lineAt, drop_succ_of_drop h, take_succ_of_drop h, List.reverse_append]
      rfl
    _ = (restOfLine (ts.take i).reverse).reverse ++ (t :: restOfLine us) := by
      rw [restOfLine_cons hn, List.reverse_cons, List.append_assoc, List.singleton_append]
    _ = lineAt ts i := by rw [lineAt, h, restOfLine_cons hn]

lemma isHashLine_blank (text : String) (line : List Token) :
    IsHashLine (.blank text :: line) ↔ IsHashLine line := Iff.rfl

lemma isHashLine_cons (hb : ∀ text, t ≠ .blank text) (line : List Token) :
    IsHashLine (t :: line) ↔ t = .unknown '#' := by
  rw [IsHashLine, Token.dropBlank_cons hb, List.head?_cons, Option.some.injEq]

/-! ### Where the search stands -/

/-- What the search knows of the line of an index when it comes there. -/
def Place.Fits (ts : List Token) (i : ℕ) : Place → Prop
  | .start => OnHashLine ts i ↔ IsHashLine (restOfLine (ts.drop i))
  | .hash => OnHashLine ts i
  | .inside => ¬ OnHashLine ts i

lemma fits_zero (ts : List Token) : Place.start.Fits ts 0 := Iff.rfl

lemma fits_newline (h : ts.drop i = .newline :: us) : Place.start.Fits ts (i + 1) := by
  rw [Place.Fits, OnHashLine, lineAt_succ_newline h, drop_succ_of_drop h]

lemma fits_hash (hfit : Place.hash.Fits ts i) (h : ts.drop i = t :: us) (hn : t ≠ .newline) :
    Place.hash.Fits ts (i + 1) := by
  rw [Place.Fits, OnHashLine, lineAt_succ h hn]
  exact hfit

lemma fits_blank {place : Place} {text : String} (hfit : place.Fits ts i)
    (h : ts.drop i = .blank text :: us) : place.Fits ts (i + 1) := by
  have hline : lineAt ts (i + 1) = lineAt ts i := lineAt_succ h nofun
  cases place with
  | start =>
    rw [Place.Fits, h, restOfLine_cons (t := .blank text) nofun, isHashLine_blank] at hfit
    rw [Place.Fits, OnHashLine, hline, drop_succ_of_drop h]
    exact hfit
  | hash | inside =>
    rw [Place.Fits, OnHashLine, hline]
    exact hfit

lemma onHashLine_iff (hfit : Place.start.Fits ts i) (h : ts.drop i = t :: us) (hn : t ≠ .newline)
    (hb : ∀ text, t ≠ .blank text) : OnHashLine ts i ↔ t = .unknown '#' := by
  rw [Place.Fits, h, restOfLine_cons hn, isHashLine_cons hb] at hfit
  exact hfit

lemma not_onHashLine {place : Place} (hfit : place.Fits ts i) (h : ts.drop i = t :: us)
    (hn : t ≠ .newline) (hh : place ≠ .hash) (hb : ∀ text, t ≠ .blank text)
    (hm : place = .start → t ≠ .unknown '#') : ¬ OnHashLine ts i := by
  cases place with
  | start => exact fun hline => hm rfl ((onHashLine_iff hfit h hn hb).1 hline)
  | hash => exact absurd rfl hh
  | inside => exact hfit

/-! ### The search -/

/-- A header starts at the index, and not in a line with `#` in front. -/
def StartsAt (ts : List Token) (i : ℕ) (found : Header × List Token) : Prop :=
  ¬ OnHashLine ts i ∧ match? (ts.drop i) = some found

/-- What a search from an index on has to come to: the first header there, or none. -/
inductive FirstFrom (ts : List Token) (i : ℕ) : Option (Header × List Token) → Prop
  | found {j : ℕ} {found : Header × List Token} (hij : i ≤ j) (h : StartsAt ts j found)
    (hno : ∀ k, i ≤ k → k < j → ∀ other, ¬ StartsAt ts k other) : FirstFrom ts i (some found)
  | none (hno : ∀ k, i ≤ k → ∀ other, ¬ StartsAt ts k other) : FirstFrom ts i none

lemma FirstFrom.step {found? : Option (Header × List Token)}
    (h : FirstFrom ts (i + 1) found?) (hi : ∀ other, ¬ StartsAt ts i other) :
    FirstFrom ts i found? := by
  cases h with
  | found hij hj hno =>
    refine .found (by omega) hj fun k hik hkj => ?_
    rcases Nat.eq_or_lt_of_le hik with rfl | hlt
    · exact hi
    · exact hno k hlt hkj
  | none hno =>
    refine .none fun k hik => ?_
    rcases Nat.eq_or_lt_of_le hik with rfl | hlt
    · exact hi
    · exact hno k hlt

lemma not_startsAt_of_match? (h : match? (ts.drop i) = none) (other : Header × List Token) :
    ¬ StartsAt ts i other := by
  rintro ⟨-, hmatch⟩
  rw [h] at hmatch
  cases hmatch

/-- From a place that it knows the search comes to the first header. -/
lemma findFrom?_first {place : Place} (hus : ts.drop i = us) (hfit : place.Fits ts i) :
    FirstFrom ts i (findFrom? place us) := by
  -- neither a newline nor a blank starts a header
  have hgap {t : Token} {us : List Token} {i : ℕ} (h : ts.drop i = t :: us) (ht : IsGap t) :
      ∀ other, ¬ StartsAt ts i other :=
    not_startsAt_of_match? (by rw [h, match?_eq_none (not_opens_of_isGap ht)])
  -- by the cases of the search; what is known of the line goes over from one index to the next
  fun_induction findFrom? place us generalizing i with
  | case1 place =>
    -- behind the last token there is nothing to start
    refine .none fun k hik => not_startsAt_of_match? ?_
    have hlen : ts.length ≤ k := Nat.le_trans (List.drop_eq_nil_iff.1 hus) hik
    rw [List.drop_eq_nil_of_le hlen]
    rfl
  | case2 place us ih =>
    exact (ih (drop_succ_of_drop hus) (fits_newline hus)).step (hgap hus (Or.inr rfl))
  | case3 t us hn ih =>
    -- whatever stands here, the line has `#` in front
    exact (ih (drop_succ_of_drop hus) (fits_hash hfit hus hn)).step fun other h => h.1 hfit
  | case4 place text us _ ih =>
    exact (ih (drop_succ_of_drop hus) (fits_blank hfit hus)).step (hgap hus (Or.inl rfl))
  | case5 us ih =>
    -- this is the `#` in front of its line
    have hn : Token.unknown '#' ≠ .newline := by rintro ⟨⟩
    have hb : ∀ text, Token.unknown '#' ≠ .blank text := by rintro text ⟨⟩
    have hhash : Place.hash.Fits ts i := (onHashLine_iff hfit hus hn hb).2 rfl
    exact (ih (drop_succ_of_drop hus) (fits_hash hhash hus hn)).step fun other h => h.1 hhash
  | case6 place t us hn hh hb hm found hf =>
    -- the header is here, and no index was passed over
    refine .found (Nat.le_refl i) ⟨not_onHashLine hfit hus hn hh hb hm, ?_⟩ fun k hik hki => ?_
    · rw [hus, hf]
    · omega
  | case7 place t us hn hh hb hm hf ih =>
    have hinside : Place.inside.Fits ts (i + 1) := by
      rw [Place.Fits, OnHashLine, lineAt_succ hus hn]
      exact not_onHashLine hfit hus hn hh hb hm
    exact (ih (drop_succ_of_drop hus) hinside).step (not_startsAt_of_match? (by rw [hus, hf]))

/-! ### The lines of a header -/

/-- In front of a brace nothing but `#` makes a line with `#` in front. -/
lemma not_isHashLine_restOfLine (h : .unknown '#' ∉ us) (body : List Token) :
    ¬ IsHashLine (restOfLine (us ++ .leftBrace :: body)) := by
  induction us with
  | nil => nofun
  | cons t us ih =>
    simp only [List.mem_cons, not_or] at h
    by_cases hn : t = .newline
    · rw [hn]
      nofun
    · rw [List.cons_append, restOfLine_cons hn]
      by_cases hb : ∃ text, t = .blank text
      · obtain ⟨text, rfl⟩ := hb
        exact ih h.2
      · rw [isHashLine_cons (not_exists.1 hb)]
        exact Ne.symm h.1

lemma not_onHashLine_of_front {front : List Token} (hi : ¬ OnHashLine ts i)
    (h : ts.drop i = front ++ .leftBrace :: body) (hhash : .unknown '#' ∉ front) {k : ℕ}
    (hk : k ≤ front.length) : ¬ OnHashLine ts (i + k) := by
  induction front generalizing i k with
  | nil =>
    obtain rfl : k = 0 := Nat.le_zero.1 hk
    exact hi
  | cons t front ih =>
    simp only [List.mem_cons, not_or] at hhash
    cases k with
    | zero => exact hi
    | succ k =>
      have hnext : ¬ OnHashLine ts (i + 1) := by
        by_cases hn : t = .newline
        · -- a new line, whose rest is free of `#` up to the brace
          subst hn
          rw [OnHashLine, lineAt_succ_newline h]
          exact not_isHashLine_restOfLine hhash.2 body
        · rw [OnHashLine, lineAt_succ h hn]
          exact hi
      have hmore := ih hnext (drop_succ_of_drop h) hhash.2 (Nat.le_of_succ_le_succ hk)
      rwa [Nat.add_assoc, Nat.add_comm 1 k] at hmore

lemma hash_notMem_of_spelledBy {ms front : List Token} (hms : header.SpelledBy ms)
    (hfront : marks front = ms) : .unknown '#' ∉ front := by
  intro hmem
  have hmark : .unknown '#' ∈ ms := by
    rw [← hfront]
    exact List.mem_filter.2 ⟨hmem, rfl⟩
  obtain ⟨strict?, word, id?, rfl, hstrict, -, hword, hid, -⟩ := hms
  simp only [List.mem_append, Option.mem_toList, List.mem_cons] at hmark
  rcases hmark with hmark | rfl | hmark
  · obtain ⟨name, hname, -⟩ := hstrict _ hmark
    cases hname
  · obtain ⟨name, hname, -⟩ := hword
    cases hname
  · cases hid _ hmark

/-- **The first header**: the search comes to the header at the least index where one starts that is
not in a line with `#` in front, and to none exactly when there is no such index. From this index up
to the body stand the marks of the header, with its brace as the last one, and no line of it has `#`
in front. -/
theorem find?_first (ts : List Token) :
    (∀ found, find? ts = some found ↔
      ∃ i, StartsAt ts i found ∧ ∀ j < i, ∀ other, ¬ StartsAt ts j other) ∧
    (find? ts = none ↔ ∀ i found, ¬ StartsAt ts i found) ∧
    ∀ header body, find? ts = some (header, body) → ∃ i stop, StartsAt ts i (header, body) ∧
      (∀ j < i, ∀ other, ¬ StartsAt ts j other) ∧ stop ≤ ts.length ∧ body = ts.drop stop ∧
      (∃ ms, header.SpelledBy ms ∧ marks ((ts.take stop).drop i) = ms ++ [.leftBrace]) ∧
      ∀ j, i ≤ j → j < stop → ¬ OnHashLine ts j := by
  have hfirst : FirstFrom ts 0 (find? ts) := findFrom?_first rfl (fits_zero ts)
  have hsome {found : Header × List Token} (h : find? ts = some found) :
      ∃ i, StartsAt ts i found ∧ ∀ j < i, ∀ other, ¬ StartsAt ts j other := by
    rw [h] at hfirst
    cases hfirst with
    | found _ hi hno => exact ⟨_, hi, fun j => hno j (Nat.zero_le j)⟩
  have hnone (h : find? ts = none) : ∀ i found, ¬ StartsAt ts i found := by
    rw [h] at hfirst
    cases hfirst with
    | none hno => exact fun i => hno i (Nat.zero_le i)
  refine ⟨fun found => ⟨hsome, ?_⟩, ⟨hnone, ?_⟩, ?_⟩
  · rintro ⟨i, hi, hno⟩
    cases hfind : find? ts with
    | none => exact absurd hi (hnone hfind i found)
    | some other =>
      obtain ⟨j, hj, hnoj⟩ := hsome hfind
      -- both indices are the least one
      have hij : i = j := by
        rcases Nat.lt_trichotomy i j with hlt | heq | hlt
        · exact absurd hi (hnoj i hlt found)
        · exact heq
        · exact absurd hj (hno j hlt other)
      rw [← hij] at hj
      exact hj.2.symm.trans hi.2
  · intro hno
    cases hfind : find? ts with
    | none => rfl
    | some found =>
      obtain ⟨i, hi, -⟩ := hsome hfind
      exact absurd hi (hno i found)
  · -- the marks of the header stand from its index up to the body
    intro header body hfind
    obtain ⟨i, hi, hno⟩ := hsome hfind
    obtain ⟨ms, hms, front, hfront, hmarks⟩ := leaves_match? hi.2
    have hlen := congrArg List.length hfront
    have hlt : i < ts.length := by
      by_contra hle
      rw [List.drop_eq_nil_of_le (by omega)] at hfront
      simp at hfront
    simp only [List.length_drop, List.length_append, List.length_cons] at hlen
    have hsplit : ts.drop i = (front ++ [.leftBrace]) ++ body := by rw [hfront]; simp
    have hspan : (ts.take (i + (front.length + 1))).drop i = front ++ [.leftBrace] := by
      rw [List.drop_take, hsplit, Nat.add_sub_cancel_left]
      exact List.take_left' (by simp)
    refine ⟨i, i + (front.length + 1), hi, hno, by omega, ?_, ⟨ms, hms, ?_⟩, fun j hij hj => ?_⟩
    · rw [← List.drop_drop, hsplit]
      exact (List.drop_left' (by simp)).symm
    · rw [hspan, ← hmarks, marks, List.filter_append]
      rfl
    · obtain ⟨k, rfl⟩ := Nat.exists_eq_add_of_le hij
      exact not_onHashLine_of_front hi.1 hfront (hash_notMem_of_spelledBy hms hmarks) (by omega)

/-- A header over several lines behind two that stand in lines with `#` in front and two words that
start none. -/
def scattered : String :=
  "# graph a \x7b\n \t# graph b \x7b\nstrict node /**/ graph\nSTRICT // #\n\nDigraph\n" ++
  "/* \x7b */ \"a b\" \x7b x"

/-- The header is the one that starts in the fourth line. -/
theorem find?_first_scattered :
    find? (Token.ofString scattered) =
      some (⟨.directed, true, "a b"⟩, [.blank " ", .identifier "x"]) ∧
    ∃ i, StartsAt (Token.ofString scattered) i
        (⟨.directed, true, "a b"⟩, [.blank " ", .identifier "x"]) ∧
      ∀ j < i, ∀ other, ¬ StartsAt (Token.ofString scattered) j other := by
  have hfind : find? (Token.ofString scattered) =
      some (⟨.directed, true, "a b"⟩, [.blank " ", .identifier "x"]) := by
    decide +kernel
  exact ⟨hfind, ((find?_first _).1 _).1 hfind⟩

end DotDrawing.Header
