import DotDrawing.Color.Reader
import Mathlib.Tactic.Lemma

/-!
Comments in colors.

A walk over a text takes comments as a whole and, outside of them, only characters that mean nothing
in markup. The other characters of a text that can be walked over stand in its comments. Main
statement: `Walk.plain_iff`.
-/

namespace DotDrawing.Color

/-- The character means nothing inside markup. -/
def isPlain (c : Char) : Bool := !(c == '"' || c == '\'' || c == '<' || c == '>' || c == '&')

/-- What stands in front of the end of a comment. -/
def inComment : List Char → List Char
  | [] => []
  | '*' :: '/' :: _ => []
  | c :: r => c :: inComment r

/-- What the comments of a text say, in order. A comment without an end is not taken for one. -/
def commentsOf (s : List Char) : List (List Char) :=
  match _h : s with
  | [] => []
  | c :: r =>
    if c = '/' ∧ r.head? = some '*' then
      match _hr : afterComment? r.tail with
      | some rest => inComment r.tail :: commentsOf rest
      | none => commentsOf r
    else commentsOf r
  termination_by s.length
  decreasing_by
    · have := length_afterComment? _hr
      simp only [List.length_cons, List.length_tail] at *
      omega
    · simp
    · simp

/-! ### Steps over a text -/

/-- From one text to a tail of it over comments and over characters outside of comments, which mean
nothing in markup. -/
inductive Walk : List Char → List Char → Prop
  | refl (s : List Char) : Walk s s
  | char {c : Char} {s r : List Char} (hc : isPlain c) (ho : c = '/' → s.head? ≠ some '*')
    (h : Walk s r) : Walk (c :: s) r
  | comment {s rest r : List Char} (hr : afterComment? s = some rest) (h : Walk rest r) :
    Walk ('/' :: '*' :: s) r

variable {s t r rest : List Char} {c : Char}

lemma Walk.trans (h : Walk s t) (h' : Walk t r) : Walk s r := by
  induction h with
  | refl => exact h'
  | char hc ho _ ih => exact .char hc ho (ih h')
  | comment hr _ ih => exact .comment hr (ih h')

lemma walk_append (h : ∀ c ∈ t, isPlain c ∧ c ≠ '/') (r : List Char) : Walk (t ++ r) r := by
  induction t with
  | nil => exact .refl r
  | cons c t ih =>
    obtain ⟨hc, hslash⟩ := h c List.mem_cons_self
    exact .char hc (fun hs => absurd hs hslash) (ih fun d hd => h d (List.mem_cons_of_mem _ hd))

lemma inComment_append (h : afterComment? s = some rest) :
    inComment s ++ '*' :: '/' :: rest = s := by
  fun_induction afterComment? s with
  | case1 => cases h
  | case2 r =>
    cases h
    rfl
  | case3 c r hno ih =>
    rw [inComment, List.cons_append, ih h]
    exact hno

lemma commentsOf_char (ho : c = '/' → s.head? ≠ some '*') : commentsOf (c :: s) = commentsOf s := by
  rw [commentsOf]
  exact if_neg fun h => ho h.1 h.2

lemma commentsOf_comment (h : afterComment? s = some rest) :
    commentsOf ('/' :: '*' :: s) = inComment s :: commentsOf rest := by
  rw [commentsOf]
  simp only [List.head?_cons, List.tail_cons, and_self, if_true]
  split
  · next other hother =>
    rw [h] at hother
    cases hother
    rfl
  · next hnone =>
    rw [h] at hnone
    cases hnone

lemma Walk.plain_iff (h : Walk s []) :
    (∀ c ∈ s, isPlain c) ↔ ∀ comment ∈ commentsOf s, ∀ c ∈ comment, isPlain c := by
  generalize hend : [] = r at h
  induction h with
  | refl =>
    subst hend
    simp [commentsOf]
  | char hc ho _ ih =>
    rw [commentsOf_char ho, ← ih hend]
    simp [hc]
  | @comment s rest r hr _ ih =>
    have hmarks : isPlain '/' ∧ isPlain '*' := by decide
    have hs : ∀ P : Char → Prop, (∀ c ∈ s, P c) ↔ (∀ c ∈ inComment s, P c) ∧
        P '*' ∧ P '/' ∧ ∀ c ∈ rest, P c := by
      intro P
      conv => lhs; rw [← inComment_append hr]
      simp [or_imp, forall_and]
    -- a comment, its end and the rest; the marks themselves are plain
    rw [commentsOf_comment hr, List.forall_mem_cons, List.forall_mem_cons, List.forall_mem_cons,
      ← ih hend, hs]
    simp [hmarks]

end DotDrawing.Color
