import DotDrawing.Proofs.Source.Statements
import DotDrawing.Proofs.Token.Lines

/-!
Where the statements of a source stand.

A passage is a run of a line with all that stands in front of it in the source: a statement, or what
is left behind the last one. The passages of a source follow one another in it
(`Source.along_passages`), and the line of an item is the line on which its passage stands
(`Source.mention_items`).
-/

namespace DotDrawing

/-! ### Passages -/

/-- A run of tokens in a source, with the tokens in front of it. -/
structure Passage where
  front : List Token
  run : List Token
  /-- A `;` ends the run. -/
  terminated : Bool

namespace Passage

/-- The statements of a line and what is left behind them. -/
def ofRuns (trailing front : List Token) : List (List Token) → List Passage
  | [] => [⟨front, trailing, false⟩]
  | run :: runs => ⟨front, run, true⟩ :: ofRuns trailing (front ++ run ++ [.semicolon]) runs

def ofLine (front line : List Token) : List Passage :=
  if Statement.isSkipped line then []
  else ofRuns (Statement.cut line).trailing front (Statement.cut line).statements

/-- The passages of lines that follow one another. -/
def ofLines (front : List Token) : List (List Token) → List Passage
  | [] => []
  | line :: lines => ofLine front line ++ ofLines (front ++ line ++ [.newline]) lines

/-- All tokens up to the end of the passage, with the `;` that ends it. -/
def reach (p : Passage) : List Token :=
  p.front ++ p.run ++ if p.terminated then [.semicolon] else []

/-- The number of the line on which the passage stands. -/
def line (p : Passage) : Nat := 1 + (Token.spellings p.front).count '\n'

/-- The text of the passage, without white space at its ends. -/
def text (p : Passage) : String := Token.sourceText p.run

/-- The passage counts for something: a statement that is not blank, or something left behind that
is more than white space, comments and `}`. -/
def isNoted (p : Passage) : Bool :=
  if p.terminated then p.text != "" else p.run.any Piece.isSignificant

/-- The passages follow one another between two places of a source. -/
def Along (front whole : List Token) : List Passage → Prop
  | [] => front <+: whole
  | p :: ps => front <+: p.front ∧ Along p.reach whole ps

lemma front_prefix_reach (p : Passage) : p.front <+: p.reach :=
  (List.prefix_append ..).trans (List.prefix_append ..)

variable {front mid whole : List Token} {ps qs : List Passage}

lemma Along.front_prefix_whole (h : Along front whole ps) : front <+: whole := by
  induction ps generalizing front with
  | nil => exact h
  | cons p ps ih => exact (h.1.trans p.front_prefix_reach).trans (ih h.2)

lemma Along.widen (hf : front <+: mid) (h : Along mid whole ps) : Along front whole ps := by
  cases ps with
  | nil => exact hf.trans h
  | cons p ps => exact ⟨hf.trans h.1, h.2⟩

lemma Along.append (h : Along front mid ps) (h' : Along mid whole qs) :
    Along front whole (ps ++ qs) := by
  induction ps generalizing front with
  | nil => exact h'.widen h
  | cons p ps ih => exact ⟨h.1, ih h.2⟩

lemma Along.reach_prefix_whole (h : Along front whole ps) : ∀ p ∈ ps, p.reach <+: whole := by
  induction ps generalizing front with
  | nil => simp
  | cons p ps ih => exact List.forall_mem_cons.2 ⟨h.2.front_prefix_whole, ih h.2⟩

lemma Along.prefix_front (h : Along front whole ps) : ∀ p ∈ ps, front <+: p.front := by
  induction ps generalizing front with
  | nil => simp
  | cons p ps ih =>
    refine List.forall_mem_cons.2 ⟨h.1, fun q hq => ?_⟩
    exact (h.1.trans p.front_prefix_reach).trans (ih h.2 q hq)

lemma Along.pairwise (h : Along front whole ps) :
    ps.Pairwise fun p q => p.reach <+: q.front := by
  induction ps generalizing front with
  | nil => exact List.Pairwise.nil
  | cons p ps ih => exact List.pairwise_cons.2 ⟨h.2.prefix_front, ih h.2⟩

lemma along_ofRuns (trailing front : List Token) (runs : List (List Token)) :
    Along front (front ++ Statement.Cut.joined ⟨runs, trailing⟩) (ofRuns trailing front runs) := by
  induction runs generalizing front with
  | nil =>
    have hreach : reach ⟨front, trailing, false⟩ = front ++ trailing := List.append_nil _
    exact ⟨List.prefix_rfl, hreach ▸ List.prefix_rfl⟩
  | cons run runs ih =>
    have hrest := ih (front ++ run ++ [.semicolon])
    have hwhole : front ++ Statement.Cut.joined ⟨run :: runs, trailing⟩ =
        front ++ run ++ [.semicolon] ++ Statement.Cut.joined ⟨runs, trailing⟩ := by
      simp [Statement.Cut.joined]
    rw [hwhole]
    exact ⟨List.prefix_rfl, hrest⟩

lemma along_ofLine (front line : List Token) : Along front (front ++ line) (ofLine front line) := by
  unfold ofLine
  split
  · exact List.prefix_append ..
  · have h := along_ofRuns (Statement.cut line).trailing front (Statement.cut line).statements
    rwa [Statement.joined_cut] at h

lemma along_ofLines (front : List Token) (lines : List (List Token)) :
    Along front (front ++ [.newline].intercalate lines) (ofLines front lines) := by
  induction lines generalizing front with
  | nil => exact List.prefix_append ..
  | cons line lines ih =>
    cases lines with
    | nil =>
      rw [ofLines, ofLines, List.append_nil, List.intercalate_singleton]
      exact along_ofLine front line
    | cons next lines =>
      have hwhole : front ++ [.newline].intercalate (line :: next :: lines) =
          front ++ line ++ [.newline] ++ [.newline].intercalate (next :: lines) := by
        simp [List.intercalate_cons_cons]
      rw [hwhole, ofLines]
      refine (along_ofLine front line).append (Along.widen ?_ (ih _))
      exact List.prefix_append ..

end Passage

/-- What is said of a passage where it is mentioned. -/
structure Mention where
  line : Nat
  text : String
  /-- The passage is a statement. -/
  terminated : Bool

def Passage.mention (p : Passage) : Mention := ⟨p.line, p.text, p.terminated⟩

def Item.mention (i : Item) : Mention := ⟨i.line, i.text, i.content matches .statement _⟩

/-! ### The lines of items -/

lemma Token.count_newline_spellings {s : List Char} {ts : List Token} (h : ts ⊆ scan s) :
    (spellings ts).count '\n' = ts.count .newline := by
  induction ts with
  | nil => rfl
  | cons t ts ih =>
    obtain ⟨ht, hts⟩ := List.cons_subset.1 h
    rw [spellings_cons, List.count_append, ih hts]
    by_cases hn : t = .newline
    · subst hn
      rw [List.count_cons_self, Nat.add_comm]
      rfl
    · rw [List.count_eq_zero_of_not_mem (newline_notMem_spelling ht hn),
        List.count_cons_of_ne hn, Nat.zero_add]

namespace Passage

lemma mention_ofRuns (kind : Graph.Kind) (trailing front : List Token)
    {runs : List (List Token)} (hn : ∀ run ∈ runs, '\n' ∉ Token.spellings run) :
    (runs.filterMap (Item.ofRun? kind (1 + (Token.spellings front).count '\n')) ++
        (Item.ofTrailing? (1 + (Token.spellings front).count '\n') trailing).toList).map
      Item.mention = ((ofRuns trailing front runs).filter isNoted).map mention := by
  induction runs generalizing front with
  | nil =>
    by_cases h : trailing.any Piece.isSignificant <;>
      simp [ofRuns, Item.ofTrailing?, isNoted, h, Item.mention, mention, Passage.line, text]
  | cons run runs ih =>
    obtain ⟨hrun, hruns⟩ := List.forall_mem_cons.1 hn
    have hrest := ih (front ++ run ++ [.semicolon]) hruns
    have hcount : (Token.spellings (front ++ run ++ [.semicolon])).count '\n' =
        (Token.spellings front).count '\n' := by
      simp [Token.spelling, List.count_eq_zero_of_not_mem hrun]
    rw [hcount] at hrest
    by_cases h : Token.sourceText run = "" <;>
      simpa [ofRuns, Item.ofRun?, isNoted, h, Item.mention, mention, Passage.line, text] using hrest

lemma mention_ofLine (kind : Graph.Kind) (front : List Token) {line : List Token}
    (hn : '\n' ∉ Token.spellings line) :
    (Item.ofLine kind (1 + (Token.spellings front).count '\n') line).map Item.mention =
      ((ofLine front line).filter isNoted).map mention := by
  unfold Item.ofLine ofLine
  split
  · rfl
  · refine mention_ofRuns kind _ front fun run hrun hmem => hn ?_
    obtain ⟨t, ht, hmem⟩ := List.mem_flatMap.1 hmem
    exact List.mem_flatMap.2 ⟨t, Statement.mem_of_mem_cutFrom hrun t ht, hmem⟩

lemma mention_ofLines (kind : Graph.Kind) (front : List Token) {lines : List (List Token)}
    (hn : ∀ line ∈ lines, '\n' ∉ Token.spellings line) :
    (Item.ofLines kind (1 + (Token.spellings front).count '\n') lines).map Item.mention =
      ((ofLines front lines).filter isNoted).map mention := by
  induction lines generalizing front with
  | nil => rfl
  | cons line lines ih =>
    obtain ⟨hline, hlines⟩ := List.forall_mem_cons.1 hn
    have hcount : (Token.spellings (front ++ line ++ [.newline])).count '\n' =
        (Token.spellings front).count '\n' + 1 := by
      simp [Token.spelling, List.count_eq_zero_of_not_mem hline]
    have hrest := ih (front ++ line ++ [.newline]) hlines
    rw [hcount, ← Nat.add_assoc] at hrest
    rw [Item.ofLines, ofLines, List.map_append, List.filter_append, List.map_append, hrest,
      mention_ofLine kind front hline]

end Passage

namespace Source

/-- What stands in front of the body of a text. -/
def front (s : String) : List Token :=
  (Token.ofString s).take ((Token.ofString s).length - (ofString s).body.length)

/-- The statements of a text and what is left behind them, line by line, skipped lines apart. -/
def passages (s : String) : List Passage :=
  Passage.ofLines (front s) ((ofString s).body.splitOn .newline)

lemma front_append_body (s : String) : front s ++ (ofString s).body = Token.ofString s :=
  List.suffix_iff_eq_append.1 (body_suffix _)

lemma firstLine_ofString (s : String) :
    (ofString s).firstLine = 1 + (Token.spellings (front s)).count '\n' := by
  have hfront : front s ⊆ Token.ofString s := List.take_subset _ _
  have hcount : (Token.ofString s).count .newline =
      (front s).count .newline + (ofString s).body.count .newline := by
    rw [← List.count_append, front_append_body]
  rw [Token.count_newline_spellings hfront]
  have hfirst : (ofString s).firstLine =
      (Token.ofString s).count .newline - (ofString s).body.count .newline + 1 := by
    rw [ofString, ofTokens]
    split
    · rfl
    · exact (congrArg (· + 1) (Nat.sub_self _)).symm
  omega

lemma along_passages (s : String) : Passage.Along (front s) (Token.ofString s) (passages s) := by
  have h := Passage.along_ofLines (front s) ((ofString s).body.splitOn .newline)
  rwa [List.intercalate_splitOn, front_append_body] at h

/-- There is an item for each passage that counts for something, and it has its line and text. -/
lemma mention_items (s : String) :
    (ofString s).items.map Item.mention =
      ((passages s).filter Passage.isNoted).map Passage.mention := by
  rw [items, firstLine_ofString]
  refine Passage.mention_ofLines _ _ fun line hline => ?_
  obtain ⟨hn, hbody⟩ := mem_of_mem_splitOn hline
  have hscan : line ⊆ Token.scan s.toList := fun t ht => (body_suffix _).subset (hbody t ht)
  rw [← List.count_eq_zero, Token.count_newline_spellings hscan, List.count_eq_zero]
  exact hn

end Source

end DotDrawing
