/-!
# Tables

* `Table κ α`: at most one entry for each key.
* `Table.set`, `Table.erase`: a table that differs at one key, with what each key then holds.
-/

namespace Sluice

/-- At most one entry for each key. -/
abbrev Table (κ α : Type) := κ → Option α

namespace Table

variable {κ α : Type} [DecidableEq κ]

/-- No entry at all. -/
def empty : Table κ α := fun _ => none

/-- The table with this entry at a key. -/
def set (t : Table κ α) (k : κ) (a : α) : Table κ α := fun x => if x = k then some a else t x

/-- The table without an entry at a key. -/
def erase (t : Table κ α) (k : κ) : Table κ α := fun x => if x = k then none else t x

omit [DecidableEq κ] in
@[simp] theorem empty_apply (k : κ) : (empty : Table κ α) k = none := rfl

@[simp] theorem set_self (t : Table κ α) (k : κ) (a : α) : t.set k a k = some a := if_pos rfl

theorem set_of_ne (t : Table κ α) {k x : κ} (a : α) (h : x ≠ k) : t.set k a x = t x := if_neg h

@[simp] theorem erase_self (t : Table κ α) (k : κ) : t.erase k k = none := if_pos rfl

@[simp] theorem set_set (t : Table κ α) (k : κ) (a b : α) : (t.set k a).set k b = t.set k b := by
  funext x; unfold set; split <;> rfl

theorem set_comm (t : Table κ α) {j k : κ} (a b : α) (h : j ≠ k) :
    (t.set j a).set k b = (t.set k b).set j a := by
  funext x
  unfold set
  split
  · rename_i hx; rw [if_neg (hx ▸ h.symm)]
  · rfl

theorem set_eq_self {t : Table κ α} {k : κ} {a : α} (h : t k = some a) : t.set k a = t := by
  funext x
  unfold set
  split
  · rename_i hx; rw [hx, h]
  · rfl

/-- What a changed table holds is the new entry or an old one. -/
theorem set_cases {t : Table κ α} {k x : κ} {a b : α} (h : t.set k a x = some b) :
    (x = k ∧ b = a) ∨ (x ≠ k ∧ t x = some b) := by
  by_cases hx : x = k
  · rw [hx, set_self] at h
    exact .inl ⟨hx, (Option.some.inj h).symm⟩
  · rw [set_of_ne t a hx] at h
    exact .inr ⟨hx, h⟩

theorem erase_of_ne (t : Table κ α) {k x : κ} (h : x ≠ k) : t.erase k x = t x := if_neg h

end Table

end Sluice
