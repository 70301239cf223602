import Mathlib.Data.List.Nodup
import Sluice.Proofs.Books

/-!
# Permits are accounted for

A permit that a gate has issued is in flight there, in the gate's own list, until it comes back. So a gate
counts what it has issued less what has come back.

* `Books.Balanced`: every permit is issued once at most, and what has been issued is in flight or has
  come back. `Turn.balanced`: **every turn keeps the balance**.
* `World.issued`: the permits that a gate has issued. `permits_perm`: those of them that have not come back
  are the ones that the gate counts.
* `count_returned_le_one`: a permit comes back once at most, and to the gate that has issued it.
-/

namespace Sluice

namespace Gate

/-- A permit that comes back has been in flight, and is not any more. -/
theorem release?_permits {x y : Gate} {p : PermitId} {cb : Option DrainCallback}
    (hr : x.release? p = some (y, cb)) : p ∈ x.permits ∧ y.permits = x.permits.erase p := by
  unfold release? at hr
  split at hr
  swap
  · cases hr
  rename_i hp
  simp only at hr
  split at hr
  · -- a drain that is complete changes no permits
    unfold completeDrain at hr
    split at hr <;> cases hr <;> exact ⟨hp, rfl⟩
  · cases hr
    exact ⟨hp, rfl⟩

theorem release?_eq_none {x : Gate} {p : PermitId} (hp : p ∉ x.permits) : x.release? p = none := by
  unfold release?
  rw [if_neg hp]

theorem exists_release? {x : Gate} {p : PermitId} (hp : p ∈ x.permits) :
    ∃ y cb, x.release? p = some (y, cb) := by
  unfold release?
  rw [if_pos hp]
  simp only
  split <;> exact ⟨_, _, rfl⟩

end Gate

namespace Books

/-- The permits that are in flight at a gate. -/
def inFlight (b : Books) (g : GateId) : List PermitId :=
  match b.gates g with
  | some x => x.permits
  | none => []

/-- Every permit is issued once at most, by the gate that is known for it, and what has been issued is in
flight or has come back. -/
structure Balanced (b : Books) : Prop where
  once : ∀ g p, b.entries.count (.issued g p) ≤ 1
  issuer : ∀ g p, .issued g p ∈ b.entries → b.issuer p = some g
  balance : ∀ g p, b.entries.count (.issued g p) =
    (b.inFlight g).count p + b.entries.count (.returned g p)

theorem balanced_new : Balanced {} :=
  ⟨fun _ _ => Nat.zero_le 1, fun _ _ h => (nomatch h), fun _ _ => rfl⟩

variable {b b' : Books} {g : GateId} {x y : Gate} {p : PermitId} {o : Occurrence} {l : List Occurrence}

theorem inFlight_of_gate (hg : b.gates g = some x) : b.inFlight g = x.permits := by
  unfold inFlight
  rw [hg]

/-- One gate's permits change. -/
theorem inFlight_set (hb : b'.gates = b.gates.set g y) (h : GateId) :
    b'.inFlight h = if h = g then y.permits else b.inFlight h := by
  unfold inFlight
  rw [hb]
  by_cases hh : h = g
  · subst hh
    rw [Table.set_self, if_pos rfl]
  · rw [Table.set_of_ne _ _ hh, if_neg hh]

/-- Entries that are not of the kind that is counted do not count. -/
theorem Balanced.keep (h : b.Balanced) (hf : ∀ g, b'.inFlight g = b.inFlight g)
    (hi : b'.issuer = b.issuer) (new : List Occurrence) (he : b'.entries = new ++ b.entries)
    (hn : ∀ o ∈ new, ∀ g p, o ≠ .issued g p ∧ o ≠ .returned g p) : b'.Balanced := by
  have hissued (g : GateId) (p : PermitId) : new.count (.issued g p) = 0 :=
    List.count_eq_zero.2 fun hm => (hn _ hm g p).1 rfl
  have hreturned (g : GateId) (p : PermitId) : new.count (.returned g p) = 0 :=
    List.count_eq_zero.2 fun hm => (hn _ hm g p).2 rfl
  refine ⟨fun g p => ?_, fun g p hm => ?_, fun g p => ?_⟩
  · rw [he, List.count_append, hissued, Nat.zero_add]
    exact h.once g p
  · rw [he] at hm
    rw [hi]
    rcases List.mem_append.1 hm with hm | hm
    · exact absurd rfl (hn _ hm g p).1
    · exact h.issuer g p hm
  · rw [he, List.count_append, List.count_append, hissued, hreturned, Nat.zero_add, Nat.zero_add, hf]
    exact h.balance g p

/-- A permit that nobody has issued is issued. -/
theorem Balanced.issue (h : b.Balanced) (hg : b.gates g = some x) (hp : b.issuer p = none) :
    Balanced ⟨b.gates.set g (x.letIn p), b.issuer.set p g, .issued g p :: b.entries⟩ := by
  have hnew (f : GateId) : .issued f p ∉ b.entries := fun hm => by
    have hi := h.issuer f p hm
    rw [hp] at hi
    cases hi
  have hfl (f : GateId) :
      inFlight ⟨b.gates.set g (x.letIn p), b.issuer.set p g, .issued g p :: b.entries⟩ f =
        if f = g then (x.letIn p).permits else b.inFlight f := inFlight_set rfl f
  refine ⟨fun f q => ?_, fun f q hm => ?_, fun f q => ?_⟩
  · by_cases he : Occurrence.issued g p = .issued f q
    · cases he
      have hz := List.count_eq_zero.2 (hnew g)
      rw [List.count_cons_self]
      omega
    · rw [List.count_cons_of_ne he]
      exact h.once f q
  · rcases List.mem_cons.1 hm with he | hm
    · cases he
      exact Table.set_self _ _ _
    · have hq : q ≠ p := fun he => hnew f (he ▸ hm)
      exact (Table.set_of_ne _ _ hq).trans (h.issuer f q hm)
  · have hb := h.balance f q
    have hret : (Occurrence.issued g p :: b.entries).count (.returned f q) =
        b.entries.count (.returned f q) := List.count_cons_of_ne (by simp)
    rw [hfl f, hret]
    by_cases hf : f = g
    · subst hf
      rw [inFlight_of_gate hg] at hb
      have hperm : (x.letIn p).permits = p :: x.permits := rfl
      rw [if_pos rfl, hperm]
      by_cases hq : q = p
      · subst hq
        rw [List.count_cons_self, List.count_cons_self]
        omega
      · rw [List.count_cons_of_ne fun he => hq (by cases he; rfl), List.count_cons_of_ne (Ne.symm hq)]
        exact hb
    · rw [if_neg hf, List.count_cons_of_ne fun he => hf (by cases he; rfl)]
      exact hb

/-- A permit in flight comes back. -/
theorem Balanced.giveBack (h : b.Balanced) (hg : b.gates g = some x) (hp : p ∈ x.permits)
    (hy : y.permits = x.permits.erase p) :
    Balanced { b with gates := b.gates.set g y, entries := .returned g p :: b.entries } := by
  have hfl (f : GateId) :
      inFlight { b with gates := b.gates.set g y, entries := .returned g p :: b.entries } f =
        if f = g then y.permits else b.inFlight f := inFlight_set rfl f
  have hissued (f : GateId) (q : PermitId) :
      (Occurrence.returned g p :: b.entries).count (.issued f q) = b.entries.count (.issued f q) :=
    List.count_cons_of_ne (by simp)
  refine ⟨fun f q => ?_, fun f q hm => ?_, fun f q => ?_⟩
  · rw [hissued]
    exact h.once f q
  · rcases List.mem_cons.1 hm with he | hm
    · cases he
    · exact h.issuer f q hm
  · have hb := h.balance f q
    rw [hfl f, hissued]
    by_cases hf : f = g
    · subst hf
      rw [inFlight_of_gate hg] at hb
      rw [if_pos rfl, hy]
      by_cases hq : q = p
      · subst hq
        have hpos := List.count_pos_iff.2 hp
        rw [List.count_erase_self, List.count_cons_self]
        omega
      · rw [List.count_erase_of_ne hq, List.count_cons_of_ne fun he => hq (by cases he; rfl)]
        exact hb
    · rw [if_neg hf, List.count_cons_of_ne fun he => hf (by cases he; rfl)]
      exact hb

end Books

namespace Machine

open Books

/-- **Every turn keeps the balance.** -/
theorem Turn.balanced {a b : Books} (hab : Turn a b) (h : a.Balanced) : b.Balanced := by
  -- a gate that is made or changes its state keeps its permits
  have hsame {g : GateId} {y : Gate} (hy : y.permits = a.inFlight g) (b' : Books)
      (hb : b'.gates = a.gates.set g y) (f : GateId) : b'.inFlight f = a.inFlight f := by
    rw [inFlight_set hb f]
    split
    · rename_i hf
      rw [hf, hy]
    · rfl
  cases hab with
  | made hg =>
    refine h.keep (hsame (y := { name := _ }) ?_ _ rfl) rfl [] rfl nofun
    unfold inFlight
    rw [hg]
  | issued hg _ hp => exact h.issue hg hp
  | @returned g x p y callback hg hr =>
    obtain ⟨hp, hy⟩ := Gate.release?_permits hr
    refine (h.giveBack hg hp hy).keep (fun _ => rfl) rfl _ rfl fun o ho f q => ?_
    obtain ⟨cb, -, rfl⟩ := Option.map_eq_some_iff.1 (Option.mem_toList.1 ho)
    exact ⟨nofun, nofun⟩
  | closed hg =>
    refine h.keep (hsame ?_ _ rfl) rfl [_] rfl fun o ho f q => ?_
    · rw [Gate.beginDrain_permits, inFlight_of_gate hg]
    · rw [List.mem_singleton.1 ho]
      exact ⟨nofun, nofun⟩
  | reopened hg =>
    refine h.keep (hsame ?_ _ rfl) rfl [_] rfl fun o ho f q => ?_
    · exact (inFlight_of_gate hg).symm
    · rw [List.mem_singleton.1 ho]
      exact ⟨nofun, nofun⟩

theorem run_balanced (moves : List Move) : (run {} moves).world.books.Balanced :=
  run_books balanced_new (fun _ _ _ hab h => hab.balanced h) moves

end Machine

/-! ## What a gate has issued -/

namespace World

/-- The permits that a gate has issued, newest first. -/
def issued (w : World) (g : GateId) : List PermitId :=
  w.journal.filterMap fun
    | .issued h p => if h = g then some p else none
    | _ => none

/-- Whether a permit has come back to a gate. -/
def hasReturned (w : World) (g : GateId) (p : PermitId) : Bool := w.journal.contains (.returned g p)

variable {w : World} {g : GateId} {x : Gate} {p : PermitId}

/-- The books are the part of the journal that concerns gates. -/
theorem count_books {o : Occurrence} (h : o.isEntry = true) :
    w.books.entries.count o = w.journal.count o := List.count_filter h

theorem count_issued (w : World) (g : GateId) (p : PermitId) :
    (w.issued g).count p = w.journal.count (.issued g p) := by
  unfold issued
  induction w.journal with
  | nil => rfl
  | cons o l ih =>
    rw [List.filterMap_cons, List.count_cons, ← ih]
    cases o with
    | issued f q =>
      by_cases hf : f = g
      · subst hf
        simp [List.count_cons]
      · simp [hf]
    | _ => simp

variable (h : w.books.Balanced)

include h

theorem nodup_issued (g : GateId) : (w.issued g).Nodup := by
  rw [List.nodup_iff_count_le_one]
  intro p
  rw [count_issued, ← count_books rfl]
  exact h.once g p

/-- What is in flight has been issued and has not come back. -/
theorem count_permits (hg : w.gates g = some x) (p : PermitId) :
    w.journal.count (.issued g p) = x.permits.count p + w.journal.count (.returned g p) := by
  have hb := h.balance g p
  rwa [Books.inFlight_of_gate (b := w.books) hg, count_books rfl, count_books rfl] at hb

theorem count_issued_le_one (g : GateId) (p : PermitId) : w.journal.count (.issued g p) ≤ 1 := by
  rw [← count_books rfl]
  exact h.once g p

/-- **The permits that a gate counts are those that it has issued and that have not come back.** -/
theorem permits_perm (hg : w.gates g = some x) :
    x.permits.Perm ((w.issued g).filter fun p => !w.hasReturned g p) := by
  rw [List.perm_iff_count]
  intro p
  have hc := count_permits h hg p
  have hle := count_issued_le_one h g p
  cases hr : w.hasReturned g p with
  | true =>
    have hpos := List.count_pos_iff.2 (List.contains_iff_mem.1 hr)
    have hnot : p ∉ (w.issued g).filter fun p => !w.hasReturned g p := fun hm => by
      have hn := (List.mem_filter.1 hm).2
      rw [hr] at hn
      cases hn
    rw [List.count_eq_zero.2 hnot]
    omega
  | false =>
    have hz : w.journal.count (.returned g p) = 0 := List.count_eq_zero.2 fun hm => by
      have hm' := List.contains_iff_mem.2 hm
      unfold hasReturned at hr
      rw [hr] at hm'
      cases hm'
    rw [List.count_filter (by rw [hr]; rfl), count_issued]
    omega

/-- What comes back has been issued by the gate to which it comes back, and comes back once. -/
theorem count_returned_le_one (hr : .returned g p ∈ w.journal) :
    w.journal.count (.returned g p) = 1 ∧ .issued g p ∈ w.journal ∧ w.issuer p = some g := by
  have hpos := List.count_pos_iff.2 hr
  have hb := h.balance g p
  rw [count_books rfl, count_books rfl] at hb
  have hle := count_issued_le_one h g p
  have hm : .issued g p ∈ w.journal := List.count_pos_iff.1 (by omega)
  exact ⟨by omega, hm, h.issuer g p (List.mem_filter.2 ⟨hm, rfl⟩)⟩

end World

end Sluice
