import DotDrawing.Proofs.Source.Passages

/-!
Where a line is cut.

The depth of brackets in front of a place of a line is counted from the start of the line. A line is
cut at the `;` that stand at depth zero and nowhere else, however brackets and `;` are mixed. Main
statement: `cut_stops`.
-/

namespace DotDrawing

/-! ### Passages that lie apart -/

namespace Passage

/-- The number of tokens up to the end of the run, without the `;` that ends it. -/
def stop (p : Passage) : Nat := p.front.length + p.run.length

lemma length_reach (p : Passage) : p.reach.length = p.stop + p.terminated.toNat := by
  cases h : p.terminated <;> simp [reach, stop, h, Nat.add_assoc]

variable {front whole trailing : List Token} {ps : List Passage} {p q : Passage}

lemma Along.apart (h : Along front whole ps) (hp : p ∈ ps) (hq : q ∈ ps) :
    p = q ∨ p.reach.length ≤ q.front.length ∨ q.reach.length ≤ p.front.length := by
  have hle := List.pairwise_iff_getElem.1 (h.pairwise.imp List.IsPrefix.length_le)
  obtain ⟨i, hi, rfl⟩ := List.mem_iff_getElem.1 hp
  obtain ⟨j, hj, rfl⟩ := List.mem_iff_getElem.1 hq
  rcases Nat.lt_trichotomy i j with hij | rfl | hji
  · exact Or.inr (Or.inl (hle i j hi hj hij))
  · exact Or.inl rfl
  · exact Or.inr (Or.inr (hle j i hj hi hji))

lemma Along.stop_ne (h : Along front whole ps) (hp : p ∈ ps) (hq : q ∈ ps) (ht : q.terminated)
    {i : Nat} (hi : i < p.run.length) : q.stop ≠ p.front.length + i := by
  have hreach : q.reach.length = q.stop + 1 := by rw [length_reach, ht, Bool.toNat_true]
  have hstop : p.stop ≤ p.reach.length := by
    rw [length_reach]
    exact Nat.le_add_right ..
  unfold stop at hreach hstop ⊢
  rcases h.apart hp hq with rfl | hpq | hqp <;> omega

lemma map_run_ofRuns (trailing front : List Token) (runs : List (List Token)) :
    (ofRuns trailing front runs).map run = runs ++ [trailing] := by
  induction runs generalizing front with
  | nil => rfl
  | cons run runs ih => exact congrArg (run :: ·) (ih _)

end Passage

namespace Statement

/-! ### The places of a line -/

/-- The depth of brackets in front of a place of a line. -/
def depthAt (ts : List Token) : Nat → Nat
  | 0 => 0
  | i + 1 =>
    match ts[i]? with
    | some .leftBracket => depthAt ts i + 1
    | some .rightBracket => depthAt ts i - 1
    | _ => depthAt ts i

/-- A `;` outside brackets stands at the place. -/
def IsStop (ts : List Token) (i : Nat) : Prop := ts[i]? = some .semicolon ∧ depthAt ts i = 0

instance (ts : List Token) (i : Nat) : Decidable (IsStop ts i) :=
  inferInstanceAs (Decidable (_ ∧ _))

/-- The places of the `;` outside brackets, from left to right. -/
def stops (ts : List Token) : List Nat := (List.range ts.length).filter fun i => IsStop ts i

variable {ts : List Token} {i : Nat} {t : Token}

lemma mem_stops : i ∈ stops ts ↔ IsStop ts i := by
  simp only [stops, List.mem_filter, List.mem_range, decide_eq_true_eq, and_iff_right_iff_imp]
  exact fun h => (List.getElem?_eq_some_iff.1 h.1).1

lemma depthAt_succ (h : ts[i]? = some t) :
    depthAt ts (i + 1) = depthAfter (depthAt ts i) t := by
  rw [depthAt, h]
  cases t <;> rfl

/-! ### The places of a cut -/

namespace Cut

/-- The runs of a cut, the first one behind `front`. -/
def passages (c : Cut) (front : List Token) : List Passage :=
  Passage.ofRuns c.trailing front c.statements

/-- The places at which the statements of a cut end. -/
def ends (c : Cut) (front : List Token) : List Nat :=
  ((c.passages front).filter Passage.terminated).map Passage.stop

lemma ends_push (t : Token) (c : Cut) (front : List Token) :
    (c.push t).ends front = c.ends (front ++ [t]) := by
  obtain ⟨_ | ⟨s, ss⟩, trailing⟩ := c
  · rfl
  · simp [push, ends, passages, Passage.ofRuns, Passage.stop, Nat.add_right_comm, Nat.add_assoc]

lemma length_ends (c : Cut) (front : List Token) : (c.ends front).length = c.statements.length := by
  obtain ⟨runs, trailing⟩ := c
  induction runs generalizing front with
  | nil => rfl
  | cons run runs ih => exact congrArg (· + 1) (ih _)

end Cut

/-- The cut of the rest of a line has its ends at the stops of the line that are in the rest. -/
lemma ends_cutFrom {front rest : List Token} (h : front ++ rest = ts) :
    (cutFrom (depthAt ts front.length) rest).ends front =
      (List.range' front.length rest.length).filter fun i => IsStop ts i := by
  induction rest generalizing front with
  | nil => rfl
  | cons t rest ih =>
    have hmore : front ++ [t] ++ rest = ts := by rw [← h]; simp
    have hget : ts[front.length]? = some t := by rw [← h]; simp
    -- the depth goes along with the tokens in front
    have hrest := ih hmore
    rw [List.length_append, List.length_singleton, depthAt_succ hget] at hrest
    rw [cutFrom, List.length_cons, List.range'_succ, List.filter_cons, ← hrest]
    by_cases ht : t = .semicolon ∧ depthAt ts front.length = 0
    · have hstop : IsStop ts front.length := ⟨by rw [hget, ht.1], ht.2⟩
      rw [if_pos ht, if_pos (decide_eq_true hstop)]
      obtain ⟨rfl, hd⟩ := ht
      simp [Cut.ends, Cut.passages, Passage.ofRuns, Passage.stop, depthAfter, hd]
    · have hstop : ¬ IsStop ts front.length := fun hs => ht ⟨by simpa [hget] using hs.1, hs.2⟩
      rw [if_neg ht, if_neg (by simpa using hstop), Cut.ends_push]

lemma ends_cut (line : List Token) : (cut line).ends [] = stops line := by
  rw [stops, List.range_eq_range']
  exact ends_cutFrom (List.nil_append line)

/-- **The cut of a line** loses nothing and adds nothing: its statements with a `;` behind each and
what is left behind them are the line. The statements end at the `;` outside brackets, all of them
and no others, so there are as many. And where a statement, or what is left, stands on the line, no
`;` in it is outside brackets. -/
theorem cut_stops (line : List Token) :
    (cut line).statements.flatMap (· ++ [.semicolon]) ++ (cut line).trailing = line ∧
      (cut line).ends [] = stops line ∧
      (cut line).statements.length = (stops line).length ∧
      ((cut line).passages []).map Passage.run = (cut line).statements ++ [(cut line).trailing] ∧
      ∀ p ∈ (cut line).passages [], p.front ++ p.run <+: line ∧
        ∀ i < p.run.length, ¬ IsStop line (p.front.length + i) := by
  have halong : Passage.Along [] line ((cut line).passages []) := by
    have h := Passage.along_ofRuns (cut line).trailing [] (cut line).statements
    rwa [List.nil_append, joined_cut] at h
  refine ⟨joined_cut line, ends_cut line, ?_, Passage.map_run_ofRuns .., fun p hp => ⟨?_, ?_⟩⟩
  · rw [← ends_cut, Cut.length_ends]
  · exact (List.prefix_append ..).trans (halong.reach_prefix_whole p hp)
  · intro i hi hstop
    -- a stop is the end of some statement, and none ends inside a run
    rw [← mem_stops, ← ends_cut] at hstop
    obtain ⟨q, hq, hqi⟩ := List.mem_map.1 hstop
    obtain ⟨hq, ht⟩ := List.mem_filter.1 hq
    exact halong.stop_ne hp hq ht hi hqi

/-- The line `a];[;[];];[;`: its first bracket closes nothing and its last one stays open. -/
def unbalanced : List Token :=
  [.identifier "a", .rightBracket, .semicolon, .leftBracket, .semicolon, .leftBracket,
    .rightBracket, .semicolon, .rightBracket, .semicolon, .leftBracket, .semicolon]

/-- The second statement goes over two `;`, and a third one is left behind it. -/
theorem cut_stops_unbalanced :
    stops unbalanced = [2, 9] ∧ (cut unbalanced).trailing = [.leftBracket, .semicolon] ∧
      ⟨unbalanced.take 3, (unbalanced.drop 3).take 6, true⟩ ∈ (cut unbalanced).passages [] ∧
      ∀ i < 6, ¬ IsStop unbalanced (3 + i) := by
  have hsecond : ⟨unbalanced.take 3, (unbalanced.drop 3).take 6, true⟩ ∈
      (cut unbalanced).passages [] := List.mem_of_getElem? (i := 1) rfl
  exact ⟨by decide, rfl, hsecond, ((cut_stops unbalanced).2.2.2.2 _ hsecond).2⟩

end Statement

end DotDrawing
