import DotDrawing.Proofs.Token.Ends
import DotDrawing.Proofs.Token.Partition

/-!
Noise at the ends of lines.

White space at the ends of a line, comments that end a line and lines without anything else carry
no meaning. `Text.tidyLines` takes them out of a text, except for comments behind something else,
and `Token.tidy` takes them out of a run of tokens. Main statement: the tokens of a text and those
of its tidy lines are the same when tidied (`tidy_ofString_tidyLines`).
-/

namespace DotDrawing

/-! ### Tidy texts -/

/-- Blank lines and lines with a comment only, once they are trimmed. -/
def Text.isNoise (line : List Char) : Bool := line.isEmpty || ['/', '/'].isPrefixOf line

/-- The text with trimmed lines and without blank lines and comment lines. -/
def Text.tidyLines (s : String) : String :=
  String.ofList (['\n'].intercalate
    (((s.toList.splitOn '\n').map trim).filter fun line => !isNoise line))

lemma Text.exists_eq_trimEnd_append (cs : List Char) :
    ∃ e, cs = trimEnd cs ++ e ∧ ∀ c ∈ e, isBlank c := by
  refine ⟨(cs.reverse.takeWhile isBlank).reverse, ?_, fun c hc => ?_⟩
  · rw [trimEnd, ← List.reverse_append, List.takeWhile_append_dropWhile, List.reverse_reverse]
  · exact List.mem_takeWhile_imp (List.mem_reverse.1 hc)

lemma Text.exists_eq_append_trim_append (cs : List Char) :
    ∃ a e, cs = a ++ trim cs ++ e ∧ (∀ c ∈ a, isBlank c) ∧ ∀ c ∈ e, isBlank c := by
  obtain ⟨e, he, hblank⟩ := exists_eq_trimEnd_append (trimStart cs)
  refine ⟨cs.takeWhile isBlank, e, ?_, fun _ hc => List.mem_takeWhile_imp hc, hblank⟩
  calc cs = cs.takeWhile isBlank ++ trimStart cs := List.takeWhile_append_dropWhile.symm
    _ = cs.takeWhile isBlank ++ (trim cs ++ e) := congrArg _ he
    _ = cs.takeWhile isBlank ++ trim cs ++ e := (List.append_assoc ..).symm

lemma Text.newline_notMem_trim {line : List Char} (h : '\n' ∉ line) : '\n' ∉ trim line := by
  intro hm
  obtain ⟨e, he, -⟩ := exists_eq_trimEnd_append (trimStart line)
  have hstart : '\n' ∈ trimStart line := by
    rw [he]
    exact List.mem_append_left _ hm
  exact h ((List.dropWhile_sublist _).subset hstart)

namespace Token

/-! ### Tidy tokens -/

/-- The tokens end at a line break or are none. -/
def atBreak : List Token → Bool
  | [] | .newline :: _ => true
  | _ => false

/-- The tokens without the white space in front. -/
def dropBlank (ts : List Token) : List Token := ts.dropWhile (· matches .blank _)

lemma dropBlank_cons {t : Token} (h : ∀ text, t ≠ .blank text) (ts : List Token) :
    dropBlank (t :: ts) = t :: ts := by
  cases t with
  | blank text => exact absurd rfl (h text)
  | _ => rfl

/-- Puts a token in front of tidy tokens, unless it is a line comment, white space in front of a
line break, or a line break in front of another. -/
def settle : Token → List Token → List Token
  | .lineComment _, ts => ts
  | .blank text, ts => if atBreak ts then ts else .blank text :: ts
  | .newline, ts => if atBreak (dropBlank ts) then dropBlank ts else .newline :: dropBlank ts
  | t, ts => t :: ts

/-- The tokens without white space and comments at the ends of lines and without blank lines. -/
def tidy (ts : List Token) : List Token := ts.foldr settle []

lemma tidy_cons (t : Token) (ts : List Token) : tidy (t :: ts) = settle t (tidy ts) := rfl

lemma settle_mark {t : Token} (hn : t ≠ .newline) (hb : ∀ text, t ≠ .blank text)
    (hc : ∀ text, t ≠ .lineComment text) (ts : List Token) : settle t ts = t :: ts := by
  cases t with
  | newline => exact absurd rfl hn
  | blank text => exact absurd rfl (hb text)
  | lineComment text => exact absurd rfl (hc text)
  | _ => rfl

lemma settle_blank (text : String) {ts : List Token} (h : atBreak ts) :
    settle (.blank text) ts = ts := if_pos h

lemma settle_newline (ts : List Token) : settle .newline ts =
    if atBreak (dropBlank ts) then dropBlank ts else .newline :: dropBlank ts := rfl

lemma atBreak_settle_newline (ts : List Token) : atBreak (settle .newline ts) := by
  rw [settle_newline]
  split
  · assumption
  · rfl

lemma settle_newline_of_atBreak {ts : List Token} (h : atBreak ts) :
    settle .newline ts = ts := by
  have hdrop : dropBlank ts = ts := by
    unfold atBreak at h
    split at h
    · rfl
    · rfl
    · cases h
  rw [settle_newline, hdrop, if_pos h]

lemma atBreak_tidy {ts : List Token} (h : atBreak ts) : atBreak (tidy ts) := by
  unfold atBreak at h
  split at h
  · rfl
  · exact atBreak_settle_newline _
  · cases h

lemma atBreak_of_commentsEndLines {text : String} {ts : List Token}
    (h : CommentsEndLines (.lineComment text :: ts)) : atBreak ts := by
  cases ts with
  | nil => rfl
  | cons t ts =>
    obtain rfl := (List.isChain_cons.1 h).1 t rfl ⟨text, rfl⟩
    rfl

lemma settle_newline_settle_blank (text : String) (ts : List Token) :
    settle .newline (settle (.blank text) ts) = settle .newline ts := by
  by_cases h : atBreak ts
  · rw [settle_blank text h]
  · have hdrop : settle (.blank text) ts = .blank text :: ts := if_neg h
    rw [hdrop]
    rfl

/-! ### Trimming a line -/

lemma scan_of_isLineBlank {w : List Char} (hw : ∀ c ∈ w, isLineBlank c) :
    w = [] ∨ scan w = [.blank (String.ofList w)] := by
  cases w with
  | nil => exact Or.inl rfl
  | cons c r =>
    right
    have hr : ∀ d ∈ r, isLineBlank d := fun d hd => hw d (List.mem_cons_of_mem _ hd)
    rw [scan_cons, first_of_isLineBlank (hw c List.mem_cons_self),
      List.takeWhile_eq_self_iff.2 hr, List.dropWhile_eq_nil_iff.2 hr, scan_nil]

lemma foldr_settle_scan_of_isLineBlank {w : List Char} (hw : ∀ c ∈ w, isLineBlank c)
    {ts : List Token} (hts : atBreak ts) : (scan w).foldr settle ts = ts := by
  rcases scan_of_isLineBlank hw with rfl | hscan
  · rw [scan_nil, List.foldr_nil]
  · rw [hscan, List.foldr_cons, List.foldr_nil, settle_blank _ hts]

section

variable {c : Char} {r e v : List Char}

lemma first_of_overlap (hc : c ≠ '\n') (hv : v ≠ []) (hblank : ∀ d ∈ v, Text.isBlank d)
    (h : (first c (r ++ e)).1.spelling = c :: r ++ v) :
    isLineBlank c ∨ ∃ text w, (first c (r ++ e)).1 = .lineComment text ∧
      c :: r = '/' :: '/' :: w := by
  by_cases hcb : Text.isBlank c
  · left
    simp [isLineBlank, hcb, hc]
  · right
    rcases endsVisibly_first (by simpa using hcb) (r ++ e) with ⟨text, ht⟩ | ⟨cs, d, hcs, hd⟩
    · rw [ht] at h
      cases r with
      | nil =>
        -- the second slash would be white space
        have hslash : '/' :: text.toList = v := (List.cons.inj h).2
        rw [← hslash] at hblank
        exact absurd (hblank '/' List.mem_cons_self) (by decide)
      | cons d r =>
        obtain ⟨rfl, hsecond⟩ := List.cons.inj h
        obtain rfl : '/' = d := (List.cons.inj hsecond).1
        exact ⟨text, r, ht, rfl⟩
    · obtain ⟨us, u, rfl⟩ := (List.eq_nil_or_concat' v).resolve_left hv
      rw [hcs, ← List.append_assoc] at h
      have hlast := List.singleton_inj.1 (List.append_inj' h rfl).2
      rw [hlast, hblank u (by simp)] at hd
      cases hd

/-- A token that goes on in the white space behind a line does not count, and neither does what
there is of it in the line. -/
lemma settle_of_overlap (hr : '\n' ∉ c :: r) (hv : v ≠ []) (hblank : ∀ d ∈ v, Text.isBlank d)
    (h : (first c (r ++ e)).1.spelling = c :: r ++ v) {ts : List Token} (hts : atBreak ts) :
    settle (first c (r ++ e)).1 ts = ts ∧ (scan (c :: r)).foldr settle ts = ts := by
  have hc : c ≠ '\n' := fun hc => hr (by simp [hc])
  rcases first_of_overlap hc hv hblank h with hc | ⟨text, w, ht, hw⟩
  · -- white space up to the end of the line and behind it
    rw [first_of_isLineBlank hc] at h ⊢
    refine ⟨settle_blank _ hts, foldr_settle_scan_of_isLineBlank (fun d hd => ?_) hts⟩
    have hd : d ∈ c :: (r ++ e).takeWhile isLineBlank := by
      rw [spelling, String.toList_ofList] at h
      rw [h]
      exact List.mem_append_left _ hd
    rcases List.mem_cons.1 hd with rfl | hd
    · exact hc
    · exact List.mem_takeWhile_imp hd
  · -- a comment up to the end of the line and behind it
    have hnw : '\n' ∉ w := by
      rw [hw] at hr
      exact fun hm => hr (by simp [hm])
    rw [ht, hw, scan_lineComment hnw]
    exact ⟨rfl, rfl⟩

end

lemma foldr_settle_scan_append {w e : List Char} (hw : '\n' ∉ w) (he : ∀ c ∈ e, isLineBlank c)
    {ts : List Token} (hts : atBreak ts) :
    (scan (w ++ e)).foldr settle ts = (scan w).foldr settle ts := by
  fun_induction scan w with
  | case1 => exact foldr_settle_scan_of_isLineBlank he hts
  | case2 c r ih =>
    rw [List.cons_append, scan_cons, List.foldr_cons, List.foldr_cons]
    have hspell : (first c (r ++ e)).1.spelling ++ (first c (r ++ e)).2 = c :: r ++ e :=
      (first_spelling c (r ++ e)).1
    by_cases hinside : ∃ v, (first c (r ++ e)).2 = v ++ e
    · -- the first token ends in the line
      obtain ⟨v, hv⟩ := hinside
      have hfirst : first c r = ((first c (r ++ e)).1, v) := first_of_append (Prod.ext rfl hv)
      rw [hv, ← List.append_assoc] at hspell
      rw [hfirst] at ih ⊢
      have hn : '\n' ∉ v := by
        rw [← List.append_cancel_right hspell] at hw
        exact fun hm => hw (List.mem_append_right _ hm)
      rw [hv, ih hn]
    · -- the first token goes on behind the line
      rcases List.append_eq_append_iff.1 hspell with ⟨v, -, hrest⟩ | ⟨v, hover, hrest⟩
      · exact (hinside ⟨v, hrest⟩).elim
      · have hv : v ≠ [] := by
          rintro rfl
          exact hinside ⟨[], hrest.symm⟩
        have hleft : ∀ d ∈ (first c (r ++ e)).2, isLineBlank d := by
          intro d hd
          exact he d (by rw [hrest]; exact List.mem_append_right _ hd)
        have hblank : ∀ d ∈ v, Text.isBlank d := by
          intro d hd
          have hline := he d (by rw [hrest]; exact List.mem_append_left _ hd)
          rw [isLineBlank, Bool.and_eq_true] at hline
          exact hline.1
        obtain ⟨hfirst, hpart⟩ := settle_of_overlap hw hv hblank hover hts
        rw [foldr_settle_scan_of_isLineBlank hleft hts, hfirst]
        rw [scan_cons, List.foldr_cons] at hpart
        exact hpart.symm

lemma dropWhile_isLineBlank {w : List Char} (h : '\n' ∉ w) :
    w.dropWhile isLineBlank = Text.trimStart w := by
  induction w with
  | nil => rfl
  | cons c r ih =>
    simp only [List.mem_cons, not_or] at h
    have hc : isLineBlank c = Text.isBlank c := by simp [isLineBlank, Ne.symm h.1]
    rw [Text.trimStart, List.dropWhile_cons, List.dropWhile_cons, hc, ih h.2]
    rfl

lemma settle_newline_foldr_scan_trimStart {line : List Char} (h : '\n' ∉ line) (ts : List Token) :
    settle .newline ((scan (Text.trimStart line)).foldr settle ts) =
      settle .newline ((scan line).foldr settle ts) := by
  cases line with
  | nil => rfl
  | cons c r =>
    rw [← dropWhile_isLineBlank h]
    by_cases hc : isLineBlank c
    · rw [scan_cons, first_of_isLineBlank hc, List.foldr_cons, settle_newline_settle_blank,
        List.dropWhile_cons_of_pos hc]
    · rw [List.dropWhile_cons_of_neg hc]

lemma settle_newline_foldr_scan_trim {line : List Char} (h : '\n' ∉ line) {ts : List Token}
    (hts : atBreak ts) : settle .newline ((scan (Text.trim line)).foldr settle ts) =
      settle .newline ((scan line).foldr settle ts) := by
  obtain ⟨e, hline, he⟩ := Text.exists_eq_trimEnd_append (Text.trimStart line)
  have hblank : ∀ c ∈ e, isLineBlank c := by
    intro c hc
    have hcn : c ≠ '\n' := by
      rintro rfl
      refine h ((List.dropWhile_sublist Text.isBlank).subset ?_)
      rw [Text.trimStart] at hline
      rw [hline]
      exact List.mem_append_right _ hc
    simp [isLineBlank, he c hc, hcn]
  calc settle .newline ((scan (Text.trim line)).foldr settle ts)
    _ = settle .newline ((scan (Text.trim line ++ e)).foldr settle ts) := by
      rw [foldr_settle_scan_append (Text.newline_notMem_trim h) hblank hts]
    _ = settle .newline ((scan (Text.trimStart line)).foldr settle ts) := by
      rw [Text.trim, ← hline]
    _ = settle .newline ((scan line).foldr settle ts) :=
      settle_newline_foldr_scan_trimStart h ts

lemma settle_newline_foldr_scan_of_isNoise {line : List Char} (h : '\n' ∉ line)
    (hn : Text.isNoise line) {ts : List Token} (hts : atBreak ts) :
    settle .newline ((scan line).foldr settle ts) = ts := by
  have hscan : (scan line).foldr settle ts = ts := by
    simp only [Text.isNoise, Bool.or_eq_true, List.isEmpty_iff, List.isPrefixOf_iff_prefix] at hn
    rcases hn with rfl | ⟨r, rfl⟩
    · rw [scan_nil, List.foldr_nil]
    · have hr : '\n' ∉ r := fun hm => h (by simp [hm])
      rw [List.cons_append, List.cons_append, List.nil_append, scan_lineComment hr]
      rfl
  rw [hscan, settle_newline_of_atBreak hts]

/-! ### The lines of a text -/

lemma newline_cons_scan_intercalate (line : List Char) (lines : List (List Char)) :
    .newline :: scan (['\n'].intercalate (line :: lines)) =
      (line :: lines).flatMap fun line => .newline :: scan line := by
  induction lines generalizing line with
  | nil => simp
  | cons next lines ih =>
    have hcut : ['\n'].intercalate (line :: next :: lines) =
        line ++ '\n' :: ['\n'].intercalate (next :: lines) := by
      simp [List.intercalate_cons_cons]
    rw [hcut, scan_append_newline, ih]
    simp

lemma tidy_newline_cons_scan_intercalate (lines : List (List Char)) :
    tidy (.newline :: scan (['\n'].intercalate lines)) =
      tidy (lines.flatMap fun line => .newline :: scan line) := by
  cases lines with
  | nil =>
    have hnil : scan (['\n'].intercalate []) = [] := scan_nil
    rw [hnil]
    rfl
  | cons line lines => rw [newline_cons_scan_intercalate]

lemma tidy_line (line : List Char) (ts : List Token) : tidy (.newline :: scan line ++ ts) =
    settle .newline ((scan line).foldr settle (tidy ts)) := by
  rw [tidy, List.foldr_append, List.foldr_cons, tidy]

lemma tidy_flatMap_trim {lines : List (List Char)} (h : ∀ line ∈ lines, '\n' ∉ line) :
    tidy (((lines.map Text.trim).filter fun line => !Text.isNoise line).flatMap
        fun line => .newline :: scan line) =
      tidy (lines.flatMap fun line => .newline :: scan line) := by
  induction lines with
  | nil => rfl
  | cons line lines ih =>
    have hline := h line List.mem_cons_self
    have hmore := ih fun l hl => h l (List.mem_cons_of_mem _ hl)
    have hbreak : atBreak (tidy (lines.flatMap fun line => .newline :: scan line)) := by
      cases lines with
      | nil => rfl
      | cons next lines =>
        rw [List.flatMap_cons, tidy_line]
        exact atBreak_settle_newline _
    rw [List.map_cons, List.flatMap_cons, tidy_line,
      ← settle_newline_foldr_scan_trim hline hbreak]
    by_cases hn : Text.isNoise (Text.trim line)
    · rw [List.filter_cons_of_neg (by simp [hn]), hmore,
        settle_newline_foldr_scan_of_isNoise (Text.newline_notMem_trim hline) hn hbreak]
    · rw [List.filter_cons_of_pos (by simp [hn]), List.flatMap_cons, tidy_line, hmore]

/-- **Tidy lines**: the tokens of a text count as those of its tidy lines. -/
theorem tidy_ofString_tidyLines (s : String) :
    tidy (.newline :: ofString (Text.tidyLines s)) = tidy (.newline :: ofString s) := by
  have hlines : ∀ line ∈ s.toList.splitOn '\n', '\n' ∉ line := fun _ h =>
    (mem_of_mem_splitOn h).1
  have htext : ofString s = scan (['\n'].intercalate (s.toList.splitOn '\n')) := by
    rw [List.intercalate_splitOn, ofString]
  rw [htext, ofString, Text.tidyLines, String.toList_ofList, tidy_newline_cons_scan_intercalate,
    tidy_newline_cons_scan_intercalate, tidy_flatMap_trim hlines]

end Token

end DotDrawing
