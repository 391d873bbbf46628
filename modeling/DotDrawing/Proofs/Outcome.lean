import Mathlib.Tactic.Lemma

/-!
Outcomes of computations that can fail.

Two computations in a row give what the second makes of the result of the first, or else the fault
of the one that fails. A fault that is told in other words is still a fault.
-/

namespace DotDrawing

variable {ε ε' α β : Type} {x : Except ε α} {f : α → Except ε β} {g : ε → ε'} {a : α} {b : β}

lemma bind_eq_ok_iff : x >>= f = .ok b ↔ ∃ a, x = .ok a ∧ f a = .ok b := by
  cases x with
  | error e =>
    constructor
    · intro h
      cases h
    · rintro ⟨a, h, -⟩
      cases h
  | ok a =>
    constructor
    · exact fun h => ⟨a, rfl, h⟩
    · rintro ⟨a, ⟨⟩, h⟩
      exact h

lemma bind_eq_error_iff {fault : ε} :
    x >>= f = .error fault ↔ x = .error fault ∨ ∃ a, x = .ok a ∧ f a = .error fault := by
  cases x with
  | error e =>
    constructor
    · exact fun h => Or.inl (by cases h; rfl)
    · rintro (⟨⟨⟩⟩ | ⟨a, ⟨⟩, -⟩)
      rfl
  | ok a =>
    constructor
    · exact fun h => Or.inr ⟨a, rfl, h⟩
    · rintro (⟨⟨⟩⟩ | ⟨a, ⟨⟩, h⟩)
      exact h

lemma mapError_eq_ok_iff : x.mapError g = .ok a ↔ x = .ok a := by
  cases x with
  | error e => constructor <;> (intro h; cases h)
  | ok a => constructor <;> (intro h; cases h; rfl)

lemma mapError_eq_error_iff {fault : ε'} :
    x.mapError g = .error fault ↔ ∃ cause, x = .error cause ∧ g cause = fault := by
  cases x with
  | error e =>
    constructor
    · intro h
      cases h
      exact ⟨e, rfl, rfl⟩
    · rintro ⟨cause, ⟨⟩, rfl⟩
      rfl
  | ok a =>
    constructor
    · intro h
      cases h
    · rintro ⟨cause, ⟨⟩, -⟩

end DotDrawing
