import DotDrawing.Proofs.Token.Scan

/-!
Texts that are scanned as they are meant.

A text without line breaks that does not end in a backslash is read back from between its quotes,
whatever else it holds (`scans_quote`). Texts whose tokens do not depend on what follows them are
put together one by one.
-/

namespace DotDrawing

namespace Text

/-- A text that quotes can hold: on one line, and without a backslash in front of the quote. -/
def Plain (s : String) : Prop := '\n' ∉ s.toList ∧ s.toList.getLast? ≠ some '\\'

instance (s : String) : Decidable (Plain s) := inferInstanceAs (Decidable (_ ∧ _))

lemma close?_cons {c : Char} {r : List Char} (hq : c ≠ '"') (hn : c ≠ '\n')
    (hb : c = '\\' → r.head? ≠ some '"') :
    close? (c :: r) = (close? r).map fun p => (c :: p.1, p.2) := by
  rw [close?]
  · rw [if_neg hq, if_neg hn]
  · rintro s rfl rfl
    exact hb rfl rfl

lemma head?_escape (cs rest : List Char) (hne : cs ≠ []) :
    (escape cs ++ rest).head? ≠ some '"' := by
  cases cs with
  | nil => exact absurd rfl hne
  | cons c cs =>
    rw [escape_cons]
    split
    · simp
    · next h => simpa using h

lemma close?_escape {cs : List Char} (hn : '\n' ∉ cs) (hb : cs.getLast? ≠ some '\\')
    (rest : List Char) : close? (escape cs ++ '"' :: rest) = some (cs, rest) := by
  induction cs with
  | nil => rfl
  | cons c cs ih =>
    simp only [List.mem_cons, not_or] at hn
    have hrest : close? (escape cs ++ '"' :: rest) = some (cs, rest) := by
      refine ih hn.2 fun hl => hb ?_
      cases cs with
      | nil => simp at hl
      | cons d ds => simpa using hl
    rw [escape_cons]
    split
    · next hc => simp [close?, hrest, hc]
    · next hc =>
      -- behind a backslash the text goes on, and an escaped text does not begin with a quote
      have hhead : c = '\\' → (escape cs ++ '"' :: rest).head? ≠ some '"' := by
        rintro rfl
        refine head?_escape cs _ ?_
        rintro rfl
        exact hb rfl
      rw [List.cons_append, close?_cons hc (Ne.symm hn.1) hhead, hrest]
      rfl

end Text

lemma intercalate_map_cons {α β : Type} (sep : List β) (f : α → List β) (x : α) (xs : List α) :
    sep.intercalate ((x :: xs).map f) = f x ++ xs.flatMap fun y => sep ++ f y := by
  induction xs generalizing x with
  | nil => simp
  | cons y ys ih =>
    rw [List.map_cons, List.map_cons, List.intercalate_cons_cons, ← List.map_cons, ih]
    simp

namespace Token

/-- The text makes the tokens, whatever follows it. -/
def Scans (cs : List Char) (ts : List Token) : Prop := ∀ rest, scan (cs ++ rest) = ts ++ scan rest

namespace Scans

variable {a b : List Char} {ts us : List Token} {c : Char} {t : Token}

lemma nil : Scans [] [] := fun _ => rfl

lemma append (ha : Scans a ts) (hb : Scans b us) : Scans (a ++ b) (ts ++ us) := by
  intro rest
  rw [List.append_assoc, ha, hb, List.append_assoc]

lemma cons (h : ∀ r, first c r = (t, r)) (hb : Scans b us) : Scans (c :: b) (t :: us) := by
  intro rest
  rw [List.cons_append, scan_cons, h]
  exact congrArg (t :: ·) (hb rest)

lemma cons_cons {d : Char} (h : ∀ r, first c (d :: r) = (t, r)) (hb : Scans b us) :
    Scans (c :: d :: b) (t :: us) := by
  intro rest
  rw [List.cons_append, scan_cons, List.cons_append, h]
  exact congrArg (t :: ·) (hb rest)

lemma blank (hc : isLineBlank c = false) (h : Scans (c :: b) us) :
    Scans (' ' :: c :: b) (.blank " " :: us) := by
  intro rest
  have hfirst : first ' ' (c :: b ++ rest) = (.blank " ", c :: b ++ rest) := by
    rw [first_of_isLineBlank rfl]
    simp [hc]
  rw [List.cons_append, scan_cons, hfirst]
  exact congrArg (Token.blank " " :: ·) (h rest)

/-- **Quoted texts.** A plain text is read back from between its quotes. -/
lemma quote {s : String} (h : Text.Plain s) : Scans (Text.quote s.toList) [.quoted s] := by
  intro rest
  have hfirst : first '"' (Text.escape s.toList ++ '"' :: rest) = (.quoted s, rest) := by
    simp [first, rules, lineComment?, blockComment?, quoted?, Text.close?_escape h.1 h.2]
  rw [Text.quote, List.cons_append, scan_cons, List.append_assoc, List.singleton_append, hfirst]
  rfl

lemma keyword (k : Keyword) (hb : Scans (' ' :: b) us) :
    Scans (k.word.toList ++ ' ' :: b) (.identifier k.word :: us) := by
  have hword : ∀ r, scan (k.word.toList ++ ' ' :: r) = .identifier k.word :: scan (' ' :: r) := by
    intro r
    cases k <;> exact scan_cons _ _
  intro rest
  rw [List.append_assoc, List.cons_append, hword]
  exact congrArg (Token.identifier k.word :: ·) (hb rest)

lemma flatMap {α : Type} {f : α → List Char} {g : α → List Token} {xs : List α}
    (h : ∀ x ∈ xs, Scans (f x) (g x)) : Scans (xs.flatMap f) (xs.flatMap g) := by
  induction xs with
  | nil => exact nil
  | cons x xs ih => exact (h x (by simp)).append (ih fun y hy => h y (by simp [hy]))

lemma intercalate {α : Type} {f : α → List Char} {g : α → List Token} {sep : List Char}
    {seps : List Token} {xs : List α} (h : ∀ x ∈ xs, Scans (f x) (g x))
    (hsep : ∀ x ∈ xs, Scans (sep ++ f x) (seps ++ g x)) :
    Scans (sep.intercalate (xs.map f)) (seps.intercalate (xs.map g)) := by
  cases xs with
  | nil => exact nil
  | cons x xs =>
    rw [intercalate_map_cons, intercalate_map_cons]
    exact (h x (by simp)).append (flatMap fun y hy => hsep y (by simp [hy]))

end Scans

end Token

end DotDrawing
