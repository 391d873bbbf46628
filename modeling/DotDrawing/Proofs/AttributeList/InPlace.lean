import DotDrawing.AttributeList
import DotDrawing.Proofs.Token.Partition

/-!
Attribute lists read in place.

In place, what an entry says is cut out of the whole source by the spans of its tokens
(`cutRead?`). That gives what its tokens say (`cutRead?_located`), and it gives the same as cutting
the inside of the list out of the source first. Main statement: `parse_slice`.
-/

namespace DotDrawing

/-! ### Runs between separators -/

lemma splitOnP_map {α β : Type} (f : α → β) (q : β → Bool) (xs : List α) :
    (xs.map f).splitOnP q = (xs.splitOnP fun x => q (f x)).map (List.map f) := by
  induction xs with
  | nil => rfl
  | cons x xs ih =>
    obtain ⟨run, runs, hruns⟩ :=
      List.exists_cons_of_ne_nil (List.splitOnP_ne_nil (fun x => q (f x)) xs)
    rw [List.map_cons, List.splitOnP_cons_eq_if_modifyHead, List.splitOnP_cons_eq_if_modifyHead,
      ih, hruns]
    split <;> rfl

/-! ### Where tokens stand -/

namespace Token

lemma getElem?_locate {start i : Nat} {ts : List Token} {p : Token × Span}
    (h : (locate start ts)[i]? = some p) :
    p.2 = ⟨start + byteLength (spellings (ts.take i)),
      start + byteLength (spellings (ts.take (i + 1)))⟩ := by
  induction ts generalizing start i with
  | nil => simp [locate] at h
  | cons t ts ih =>
    cases i with
    | zero =>
      obtain rfl : (t, ⟨start, start + byteLength t.spelling⟩) = p := by simpa [locate] using h
      simp
    | succ i =>
      rw [ih (List.getElem?_cons_succ.symm.trans h)]
      simp [Nat.add_assoc]

/-- The tokens between two places of the source. -/
def between (s : String) (i j : Nat) : List (Token × Span) := ((located s).take j).drop (i + 1)

lemma infix_between (s : String) (i j : Nat) : between s i j <:+: located s :=
  (List.drop_suffix _ _).isInfix.trans (List.take_prefix _ _).isInfix

lemma map_fst_between (s : String) (i j : Nat) :
    (between s i j).map Prod.fst = ((ofString s).take j).drop (i + 1) := by
  rw [between, List.map_drop, List.map_take, located, map_fst_locate]

lemma slice?_between {s : String} {i j : Nat} {p q : Token × Span} (hij : i < j)
    (hp : (located s)[i]? = some p) (hq : (located s)[j]? = some q) :
    Span.slice? s ⟨p.2.stop, q.2.start⟩ =
      some (String.ofList (spellings ((between s i j).map Prod.fst))) := by
  have hfront : (ofString s).take j =
      (ofString s).take (i + 1) ++ ((ofString s).take j).drop (i + 1) := by
    have htake : (ofString s).take (i + 1) = ((ofString s).take j).take (i + 1) := by
      rw [List.take_take, Nat.min_eq_left hij]
    rw [htake, List.take_append_drop]
  have hcut : scan s.toList = (ofString s).take (i + 1) ++ ((ofString s).take j).drop (i + 1) ++
      (ofString s).drop j := by
    rw [← hfront, List.take_append_drop]
    rfl
  have hslice := slice?_run hcut
  rw [← byteLength_append, ← spellings_append, ← hfront] at hslice
  rw [map_fst_between, getElem?_locate hp, getElem?_locate hq]
  simpa only [Nat.zero_add] using hslice

end Token

namespace AttributeList

/-! ### Lists cut out of the source -/

/-- What one side of an `=` stands for, cut out of the source unless it is a lone quoted text. -/
def cutSide? (s : String) (run : List (Token × Span)) : Option String :=
  match (run.filter fun p => !p.1.isTrivia).map Prod.fst with
  | [.quoted text] => some text
  | _ => Token.cutText? s run

/-- The entry of a run of tokens, cut out of the source, if the run is not blank. -/
def cutPart? (s : String) (run : List (Token × Span)) : Option (Option Entry) :=
  match run.dropWhile fun p => p.1 ≠ .equals with
  | [] => do
    let text ← Token.cutText? s run
    return if text = "" then none else some (.valueless text)
  | _ :: after => do
    let key ← cutSide? s (run.takeWhile fun p => p.1 ≠ .equals)
    let text ← Token.cutText? s run
    let value ← cutSide? s after
    return some (if key = "" then .keyless text else .pair key value)

/-- The attributes of a list with all its texts cut out of the source. -/
def cutRead? (s : String) (run : List (Token × Span)) : Option Attributes := do
  let found ← (run.splitOnP fun p => isSeparator p.1).mapM (cutPart? s)
  return attributes (found.filterMap id)

variable {s : String} {run : List (Token × Span)}

lemma cutSide?_located (h : run <:+: Token.located s) :
    cutSide? s run = some (side (run.map Prod.fst)) := by
  have hfilter : (run.filter fun p => !p.1.isTrivia).map Prod.fst =
      (run.map Prod.fst).filter fun t => !t.isTrivia := by
    rw [List.filter_map]
    rfl
  rw [cutSide?, side, hfilter, Token.cutText?_located h]
  split <;> simp_all

lemma cutPart?_located (h : run <:+: Token.located s) :
    cutPart? s run = some (AttributeList.entry? (run.map Prod.fst)) := by
  have htake : (run.map Prod.fst).takeWhile (fun t => t ≠ .equals) =
      (run.takeWhile fun p => p.1 ≠ .equals).map Prod.fst := List.takeWhile_map ..
  have hdrop : (run.map Prod.fst).dropWhile (fun t => t ≠ .equals) =
      (run.dropWhile fun p => p.1 ≠ .equals).map Prod.fst := List.dropWhile_map ..
  rw [cutPart?, entry?, htake, hdrop, Token.cutText?_located h]
  cases hafter : run.dropWhile fun p => p.1 ≠ .equals with
  | nil => rfl
  | cons p after =>
    have hbefore : (run.takeWhile fun p => p.1 ≠ .equals) <:+: Token.located s :=
      (List.takeWhile_prefix _).isInfix.trans h
    have hbehind : after <:+: Token.located s := by
      have hsuffix : p :: after <:+ run := hafter ▸ List.dropWhile_suffix _
      exact ((List.suffix_cons p after).trans hsuffix).isInfix.trans h
    simp only [List.map_cons, cutSide?_located hbefore, cutSide?_located hbehind,
      Option.bind_eq_bind, Option.bind_some, Option.pure_def]
    split <;> rfl

lemma mapM_eq_some {α β : Type} {f : α → Option β} {g : α → β} {xs : List α}
    (h : ∀ x ∈ xs, f x = some (g x)) : xs.mapM f = some (xs.map g) := by
  induction xs with
  | nil => rfl
  | cons x xs ih =>
    rw [List.mapM_cons, h x List.mem_cons_self, ih fun y hy => h y (List.mem_cons_of_mem _ hy)]
    rfl

lemma cutRead?_located (h : run <:+: Token.located s) :
    cutRead? s run = some (read (run.map Prod.fst)) := by
  have hentries : (run.splitOnP fun p => isSeparator p.1).mapM (cutPart? s) =
      some ((run.splitOnP fun p => isSeparator p.1).map fun part => entry? (part.map Prod.fst)) :=
    mapM_eq_some fun part hpart => cutPart?_located ((infix_and_forall_of_mem_splitOnP hpart).1.trans h)
  have hfound : ((run.splitOnP fun p => isSeparator p.1).map fun part =>
      entry? (part.map Prod.fst)).filterMap id = entries (run.map Prod.fst) := by
    rw [entries, splitOnP_map, List.filterMap_map, List.filterMap_map]
    rfl
  rw [cutRead?, hentries, read, ← hfound]
  rfl

/-- **Reading in place**: between two tokens of a source, the attributes that the tokens say in
place, with all texts cut out of the whole source, are those of the text between the two scanned by
itself, in the same order. -/
theorem parse_slice {s : String} {i j : Nat} {p q : Token × Span} (hij : i < j)
    (hp : (Token.located s)[i]? = some p) (hq : (Token.located s)[j]? = some q) :
    ∃ text, Span.slice? s ⟨p.2.stop, q.2.start⟩ = some text ∧
      cutRead? s (Token.between s i j) = some (parse text) ∧
      read ((Token.between s i j).map Prod.fst) = parse text := by
  have hinfix : (Token.between s i j).map Prod.fst <:+: Token.scan s.toList := by
    have hmap := (Token.infix_between s i j).map Prod.fst
    rwa [Token.located, Token.map_fst_locate] at hmap
  have hread : read ((Token.between s i j).map Prod.fst) =
      parse (String.ofList (Token.spellings ((Token.between s i j).map Prod.fst))) := by
    rw [parse, Token.ofString, String.toList_ofList, Token.scan_spellings hinfix]
  refine ⟨_, Token.slice?_between hij hp hq, ?_, hread⟩
  rw [cutRead?_located (Token.infix_between s i j), hread]

/-- A list with a comment and two quotes that are open on its line, in front of a line that would
close them. -/
def openList : String := "é [a = /*x, \"b\\\" = 1.]\n*/ \";"

/-- The open marks are characters like any others, in place and cut out. -/
theorem parse_slice_openList :
    (Token.located openList)[2]? = some (.leftBracket, ⟨3, 4⟩) ∧
      (Token.located openList)[20]? = some (.rightBracket, ⟨22, 23⟩) ∧
      ∃ text, Span.slice? openList ⟨4, 22⟩ = some text ∧
        cutRead? openList (Token.between openList 2 20) = some (parse text) ∧
        (parse text).entries = [("a", "/*x"), ("\"b\\\"", "1.")] := by
  have hopen : (Token.located openList)[2]? = some (.leftBracket, ⟨3, 4⟩) := by decide +kernel
  have hclose : (Token.located openList)[20]? = some (.rightBracket, ⟨22, 23⟩) := by
    decide +kernel
  obtain ⟨text, htext, hcut, hread⟩ := parse_slice (by decide) hopen hclose
  refine ⟨hopen, hclose, text, htext, hcut, ?_⟩
  rw [← hread]
  decide +kernel

end AttributeList

end DotDrawing
