import Mathlib.Tactic.Common

/-!
# Readers that may fail

What the readers of settings and those of JSON have in common: they go step by step, and look at one character at a
time.

* `bind_eq_ok`, `bind_eq_error`: what two steps give of which each may fail.
* `isDigit_iff`: a decimal digit by its place among the characters.
-/

namespace Sluice

/-- Two steps succeed if both do. -/
theorem bind_eq_ok {ε β γ : Type} {x : Except ε β} {f : β → Except ε γ} {b : γ} :
    (x >>= f) = .ok b ↔ ∃ a, x = .ok a ∧ f a = .ok b := by
  cases x with
  | ok a =>
    refine ⟨fun h => ⟨a, rfl, h⟩, ?_⟩
    rintro ⟨a', ha, h⟩
    exact Except.ok.inj ha ▸ h
  | error err => exact ⟨nofun, nofun⟩

/-- The first of two steps that fails is to blame. -/
theorem bind_eq_error {ε β γ : Type} {x : Except ε β} {f : β → Except ε γ} {err : ε} :
    (x >>= f) = .error err ↔ x = .error err ∨ ∃ a, x = .ok a ∧ f a = .error err := by
  cases x with
  | ok a =>
    refine ⟨fun h => .inr ⟨a, rfl, h⟩, ?_⟩
    rintro (h | ⟨a', ha, h⟩)
    · cases h
    · exact Except.ok.inj ha ▸ h
  | error e =>
    refine ⟨fun h => .inl (congrArg Except.error (Except.error.inj h)), ?_⟩
    rintro (h | ⟨a', ha, -⟩)
    · exact congrArg Except.error (Except.error.inj h)
    · cases ha

theorem isDigit_iff {c : Char} : c.isDigit ↔ '0' ≤ c ∧ c ≤ '9' := by
  simp only [Char.isDigit, Bool.and_eq_true, decide_eq_true_eq]
  rfl

end Sluice
