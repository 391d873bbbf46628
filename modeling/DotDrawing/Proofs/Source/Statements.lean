import DotDrawing.Source.Builder
import DotDrawing.Proofs.Header.Search

/-!
The statements of a source.

The body of a source is a tail of its tokens, and nothing of a line is lost when it is cut
(`Statement.joined_cut`). The statements of a source are the accepted ones among the runs that a `;`
ends on the lines that are not skipped (`statements_ofString`), and a statement that joins nodes
names at least two of them.
-/

namespace DotDrawing

/-! ### The body -/

lemma Source.body_suffix (ts : List Token) : (Source.ofTokens ts).body <:+ ts := by
  unfold Source.ofTokens
  split
  · next h => exact Header.findFrom?_suffix h
  · exact List.suffix_rfl

lemma Source.body_ofString (s : String) : (Source.ofString s).body =
    ((Header.find? (Token.ofString s)).map Prod.snd).getD (Token.ofString s) := by
  rw [Source.ofString, Source.ofTokens]
  cases Header.find? (Token.ofString s) <;> rfl

lemma Source.kind_start_ofString (s : String) : (Source.ofString s).start.kind =
    ((Header.find? (Token.ofString s)).map fun found => found.1.kind).getD .directed := by
  rw [Source.ofString, Source.ofTokens]
  cases Header.find? (Token.ofString s) <;> rfl

/-! ### A line and its runs -/

namespace Statement

/-- The line that the cut is of. -/
def Cut.joined (c : Cut) : List Token := c.statements.flatMap (· ++ [.semicolon]) ++ c.trailing

lemma Cut.joined_push (t : Token) (c : Cut) : (c.push t).joined = t :: c.joined := by
  obtain ⟨_ | ⟨s, ss⟩, trailing⟩ := c <;> simp [push, joined]

lemma joined_cutFrom (depth : Nat) (line : List Token) : (cutFrom depth line).joined = line := by
  induction line generalizing depth with
  | nil => rfl
  | cons t ts ih =>
    rw [cutFrom]
    split
    · next h =>
      have hrest := ih depth
      rw [Cut.joined] at hrest ⊢
      simp only [List.flatMap_cons, List.nil_append, List.cons_append, hrest, h.1]
    · rw [Cut.joined_push, ih]

lemma joined_cut (line : List Token) : (cut line).joined = line := joined_cutFrom 0 line

lemma mem_of_mem_cutFrom {depth : Nat} {line run : List Token}
    (h : run ∈ (cutFrom depth line).statements) : ∀ t ∈ run, t ∈ line := by
  intro t ht
  rw [← joined_cutFrom depth line]
  refine List.mem_append_left _ (List.mem_flatMap.2 ⟨run, h, ?_⟩)
  exact List.mem_append_left _ ht

/-! ### What is accepted -/

lemma ofTokens_eq_nil {ts : List Token} (h : ∀ t ∈ ts, t.isTrivia) : Piece.ofTokens ts = [] := by
  induction ts with
  | nil => simp [Piece.ofTokens]
  | cons t ts ih =>
    have ht : t.isTrivia := h t (by simp)
    rw [Piece.ofTokens_skip (by simp [Piece.isSignificant, ht])]
    exact ih fun u hu => h u (by simp [hu])

lemma Derives.two_le_length {kind : Graph.Kind} {ps : List Piece} {ids : List String}
    {attributes : Attributes} (h : Derives kind ps (.edges ids attributes)) : 2 ≤ ids.length := by
  have hlen {xs : List Token} {ids : List String} (hxs : List.Forall₂ Token.Free xs ids)
      (hne : xs ≠ []) : 0 < ids.length := by
    rw [← hxs.length_eq]
    exact List.length_pos_iff.2 hne
  cases h with
  | chain _ hxs hne => exact Nat.succ_le_succ (hlen hxs hne)
  | chainWithList _ hxs hne => exact Nat.succ_le_succ (hlen hxs hne)

end Statement

namespace Source

/-- The statements that are accepted among the runs that a `;` ends on the lines of the body. -/
def accepted (s : Source) : List Statement :=
  ((s.body.splitOn .newline).filter fun line => !Statement.isSkipped line).flatMap fun line =>
    (Statement.cut line).statements.filterMap fun run =>
      (Statement.read s.start.kind run).statement?

lemma statement?_ofRun? (kind : Graph.Kind) (line : Nat) (run : List Token) :
    (Item.ofRun? kind line run).bind Item.statement? =
      if Token.sourceText run = "" then none else (Statement.read kind run).statement? := by
  unfold Item.ofRun?
  split <;> rfl

lemma statement?_of_blank (kind : Graph.Kind) {s : List Char} {run : List Token}
    (hs : ∀ t ∈ run, t ∈ Token.scan s) (hn : Token.newline ∉ run)
    (h : Token.sourceText run = "") : (Statement.read kind run).statement? = none := by
  have := Statement.ofTokens_eq_nil (Token.isTrivia_of_sourceText_eq_empty hs hn h)
  simp [Statement.read, this, Statement.classify, Statement.Reading.statement?,
    Statement.Reading.reject, Except.toOption]

lemma filterMap_statement?_ofLine (kind : Graph.Kind) (n : Nat) {s : List Char}
    {line : List Token} (hs : ∀ t ∈ line, t ∈ Token.scan s) (hn : Token.newline ∉ line) :
    (Item.ofLine kind n line).filterMap Item.statement? =
      if Statement.isSkipped line then []
      else (Statement.cut line).statements.filterMap fun run =>
        (Statement.read kind run).statement? := by
  unfold Item.ofLine
  split
  · rfl
  · have htrail : ((Item.ofTrailing? n (Statement.cut line).trailing).toList).filterMap
        Item.statement? = [] := by
      unfold Item.ofTrailing?
      split <;> rfl
    simp only [List.filterMap_append, List.filterMap_filterMap, htrail, List.append_nil]
    refine List.filterMap_congr fun run hrun => ?_
    have hmem : ∀ t ∈ run, t ∈ line := Statement.mem_of_mem_cutFrom hrun
    rw [statement?_ofRun?]
    split
    · next h =>
      exact (statement?_of_blank kind (fun t ht => hs t (hmem t ht))
        (fun ht => hn (hmem _ ht)) h).symm
    · rfl

lemma filterMap_statement?_ofLines (kind : Graph.Kind) (n : Nat) {s : List Char}
    {lines : List (List Token)}
    (h : ∀ line ∈ lines, Token.newline ∉ line ∧ ∀ t ∈ line, t ∈ Token.scan s) :
    (Item.ofLines kind n lines).filterMap Item.statement? =
      (lines.filter fun line => !Statement.isSkipped line).flatMap fun line =>
        (Statement.cut line).statements.filterMap fun run =>
          (Statement.read kind run).statement? := by
  induction lines generalizing n with
  | nil => rfl
  | cons line lines ih =>
    have hl := h line (by simp)
    rw [Item.ofLines, List.filterMap_append, filterMap_statement?_ofLine kind n hl.2 hl.1,
      ih _ fun l hm => h l (by simp [hm])]
    by_cases hsk : Statement.isSkipped line <;> simp [hsk]

lemma statements_ofString (s : String) :
    (Source.ofString s).statements = (Source.ofString s).accepted := by
  have h : ∀ line ∈ (ofString s).body.splitOn .newline,
      Token.newline ∉ line ∧ ∀ t ∈ line, t ∈ Token.scan s.toList := by
    intro line hline
    obtain ⟨hn, hm⟩ := mem_of_mem_splitOn hline
    exact ⟨hn, fun t ht => (Source.body_suffix _).subset (hm t ht)⟩
  exact filterMap_statement?_ofLines _ _ h

lemma two_le_length_of_mem_accepted {source : Source} {ids : List String}
    {attributes : Attributes} (h : Statement.edges ids attributes ∈ source.accepted) :
    2 ≤ ids.length := by
  obtain ⟨line, -, hl⟩ := List.mem_flatMap.1 h
  obtain ⟨run, -, hr⟩ := List.mem_filterMap.1 hl
  exact (Statement.derives_of_statement? hr).two_le_length

end Source

end DotDrawing
