import Mathlib.Data.List.Infix
import Sluice.Proofs.Waiting

/-!
# The cap on live objects, where callers take turns

A slot is taken before the factory makes an object, and given back if there is none in the end. In between the
cap may be set to anything.

* `Machine.setsCap?`: the cap that a move sets. `Machine.Eases`: the cap is the same, and no slot has been
  taken.
* `step_slots`: **what a move does to the cap and the slots**. A slot is taken only where one is free, and the
  cap is changed only by the call that sets it.
* `capacity_exact`: where callers take turns, the cap is respected whenever a slot is taken, hence always if it is
  never set below what is there; a pool that is above its cap grows only once it has come below.
-/

namespace Sluice.Pool.Machine

variable {α : Type} {m m' m'' : Machine α} {move : Move α} {c : CallerId}

/-- The cap that a move sets. -/
def setsCap? (m : Machine α) : Move α → Option Nat
  | .call c (.setMaxSize n) => if m.isFree c then some n else none
  | _ => none

/-- The cap is the same, and no slot has been taken. -/
structure Eases (m m' : Machine α) : Prop where
  cap : m'.pool.maxInstances = m.pool.maxInstances
  slots : m'.pool.instances ≤ m.pool.instances

theorem eases_of_eq (h : m'.pool = m.pool) : m.Eases m' := ⟨by rw [h], Nat.le_of_eq (by rw [h])⟩

theorem Eases.trans (h : m.Eases m') (h' : m'.Eases m'') : m.Eases m'' :=
  ⟨h'.cap.trans h.cap, Nat.le_trans h'.slots h.slots⟩

/-- The phases of the callers do not matter. -/
theorem Eases.put (h : m.Eases m') (c : CallerId) (p : Phase α) : m.Eases (m'.put c p) :=
  h.trans (eases_of_eq rfl)

theorem eases_freeSlot (m : Machine α) : m.Eases m.freeSlot := by
  unfold freeSlot
  simp only
  split
  · exact ⟨rfl, Nat.le_refl _⟩
  · split <;> exact ⟨rfl, Nat.sub_le _ _⟩

theorem eases_destroy (m : Machine α) (c : CallerId) (obj : α) (errand : Errand) :
    m.Eases (m.destroy c obj errand) := ⟨rfl, Nat.le_refl _⟩

theorem eases_clear (m : Machine α) (c : CallerId) : m.Eases (m.clear c) := by
  unfold clear
  split <;> exact ⟨rfl, Nat.le_refl _⟩

theorem eases_release (m : Machine α) (c : CallerId) (obj : α) : m.Eases (m.release c obj) := by
  unfold release
  split
  · simp only
    split <;> exact ⟨rfl, Nat.le_refl _⟩
  · exact eases_destroy m c obj .release

theorem eases_look (m : Machine α) (c : CallerId) (deadline : Option Nat) :
    m.Eases (m.look c deadline) := by
  unfold look
  repeat' split
  all_goals exact ⟨rfl, Nat.le_refl _⟩

theorem eases_worked (m : Machine α) (c : CallerId) (w : Work α) : m.Eases (m.worked c w) := by
  unfold worked
  split
  · exact ⟨rfl, Nat.le_refl _⟩
  · rename_i f _
    have hnote : m.Eases (m.note (.createFailed f)) := ⟨rfl, Nat.le_refl _⟩
    exact (hnote.trans (eases_freeSlot _)).put c _
  · exact (eases_freeSlot m).put c _
  · exact (eases_freeSlot m).put c _
  · exact eases_of_eq rfl
  · exact (eases_freeSlot m).trans (eases_clear _ c)
  · exact eases_of_eq rfl
  · exact (eases_freeSlot m).put c _
  · exact eases_of_eq rfl

theorem setMaxSize_slots (m : Machine α) (c : CallerId) (n : Nat) :
    (m.setMaxSize c n).pool.maxInstances = n ∧
      (m.setMaxSize c n).pool.instances = m.pool.instances := by
  unfold setMaxSize
  simp only
  split <;> exact ⟨rfl, rfl⟩

/-- A caller that tries takes a slot only where one is free. -/
theorem attempt_slots (m : Machine α) (c : CallerId) (deadline : Option Nat) :
    m.Eases (m.attempt c deadline) ∨
      m.pool.hasRoom = true ∧ (m.attempt c deadline).pool.maxInstances = m.pool.maxInstances ∧
        (m.attempt c deadline).pool.instances = m.pool.instances + 1 := by
  unfold attempt
  split
  · exact .inl ⟨rfl, Nat.le_refl _⟩
  · split
    · rename_i hr
      exact .inr ⟨hr, rfl, rfl⟩
    · exact .inl (eases_of_eq rfl)

/-- **What a move does to the cap and the slots**: it sets the cap, or leaves it and gives slots back, or takes
one that is free. -/
theorem step_slots (m : Machine α) (move : Move α) :
    (∃ n, m.setsCap? move = some n ∧ (m.step move).pool.maxInstances = n ∧
        (m.step move).pool.instances = m.pool.instances) ∨
      m.setsCap? move = none ∧ (m.Eases (m.step move) ∨
        m.pool.hasRoom = true ∧ (m.step move).pool.maxInstances = m.pool.maxInstances ∧
          (m.step move).pool.instances = m.pool.instances + 1) := by
  cases move with
  | call c k =>
    by_cases hf : m.isFree c = true
    · have hs : m.step (.call c k) = m.call c k := if_pos hf
      rw [hs]
      cases k with
      | setMaxSize n => exact .inl ⟨n, if_pos hf, setMaxSize_slots m c n⟩
      | get => exact .inr ⟨rfl, .inl (eases_of_eq rfl)⟩
      | release obj => exact .inr ⟨rfl, .inl (eases_release m c obj)⟩
      | discard obj =>
        exact .inr ⟨rfl, .inl ((eases_freeSlot m).trans (eases_destroy _ c obj .discard))⟩
      | stop => exact .inr ⟨rfl, .inl (eases_clear m c)⟩
    · -- a caller whose call is under way does not call
      have hs : m.step (.call c k) = m := if_neg hf
      have hn : m.setsCap? (.call c k) = none := by cases k <;> simp [setsCap?, hf]
      rw [hs]
      exact .inr ⟨hn, .inl (eases_of_eq rfl)⟩
  | resume c =>
    refine .inr ⟨rfl, ?_⟩
    simp only [step, resume]
    split
    · exact attempt_slots m c _
    · exact .inl (eases_look m c _)
    · exact .inl (eases_of_eq rfl)
    · exact .inl (eases_of_eq rfl)
  | worked c w => exact .inr ⟨rfl, .inl (eases_worked m c w)⟩
  | tick millis => exact .inr ⟨rfl, .inl (eases_of_eq rfl)⟩

/-- **A slot is taken only under the cap.** -/
theorem step_grows (h : m.pool.instances < (m.step move).pool.instances) :
    m.pool.hasRoom = true ∧ (m.step move).pool.maxInstances = m.pool.maxInstances ∧
      (m.step move).pool.instances = m.pool.instances + 1 := by
  rcases step_slots m move with ⟨n, -, -, he⟩ | ⟨-, he | hg⟩
  · omega
  · have hle := he.slots
    omega
  · exact hg

theorem lt_of_hasRoom {p : Pool α} (h : p.hasRoom = true) (hc : p.maxInstances ≠ 0) :
    p.instances < p.maxInstances := by
  unfold Pool.hasRoom at h
  simpa [hc] using h

/-- At the cap and above it no slot is taken. -/
theorem step_full (hc : 0 < m.pool.maxInstances) (hf : m.pool.maxInstances ≤ m.pool.instances)
    (move : Move α) : (m.step move).pool.instances ≤ m.pool.instances := by
  by_contra hg
  have hlt := lt_of_hasRoom (step_grows (Nat.lt_of_not_le hg)).1 (Nat.ne_of_gt hc)
  omega

/-- A positive cap that bounds the slots goes on to do so, unless it is set to less than there are, or to 0. -/
theorem step_bounded (hc : 0 < m.pool.maxInstances) (hb : m.pool.instances ≤ m.pool.maxInstances)
    (hs : ∀ n, m.setsCap? move = some n → 0 < n ∧ m.pool.instances ≤ n) :
    0 < (m.step move).pool.maxInstances ∧
      (m.step move).pool.instances ≤ (m.step move).pool.maxInstances := by
  rcases step_slots m move with ⟨n, hn, hmax, hinst⟩ | ⟨-, he | ⟨hr, hmax, hinst⟩⟩
  · obtain ⟨hpos, hle⟩ := hs n hn
    omega
  · have hmax := he.cap
    have hinst := he.slots
    omega
  · have hlt := lt_of_hasRoom hr (Nat.ne_of_gt hc)
    omega

theorem run_bounded (hc : 0 < m.pool.maxInstances) (hb : m.pool.instances ≤ m.pool.maxInstances)
    (moves : List (Move α))
    (hs : ∀ pre move, pre ++ [move] <+: moves → ∀ n, (m.run pre).setsCap? move = some n →
      0 < n ∧ (m.run pre).pool.instances ≤ n) :
    0 < (m.run moves).pool.maxInstances ∧
      (m.run moves).pool.instances ≤ (m.run moves).pool.maxInstances := by
  induction moves using List.reverseRecOn with
  | nil => exact ⟨hc, hb⟩
  | append_singleton moves move ih =>
    obtain ⟨hc', hb'⟩ := ih fun pre move h => hs pre move (h.trans (List.prefix_append _ _))
    rw [run_snoc]
    exact step_bounded hc' hb' (hs moves move List.prefix_rfl)

/-- **Where callers take turns, the cap on live objects is respected.** Whatever they and the factory do:

* a move that takes a slot takes one, leaves the cap as it is, and leaves the slots within the cap, unless there
  is none;
* if there is a cap from the start, and it is never set to 0 or to less than the slots that are taken, these are
  always within the cap;
* after a call that sets the cap to no more than the slots that are taken, no move takes one more, as long as
  this cap is in force and the slots have not come below it. -/
theorem capacity_exact (config : PoolConfig) (moves : List (Move α)) :
    let new : Machine α := ⟨Pool.ofConfig config, .empty, 0, []⟩
    let m := new.run moves
    (∀ move, m.pool.instances < (m.step move).pool.instances →
        (m.step move).pool.instances = m.pool.instances + 1 ∧
          (m.step move).pool.maxInstances = m.pool.maxInstances ∧
          ((m.step move).pool.maxInstances = 0 ∨
            (m.step move).pool.instances ≤ (m.step move).pool.maxInstances)) ∧
      (0 < config.maxInstances →
        (∀ pre move, pre ++ [move] <+: moves → ∀ n, (new.run pre).setsCap? move = some n →
          0 < n ∧ (new.run pre).pool.instances ≤ n) →
        m.pool.instances ≤ m.pool.maxInstances) ∧
      ∀ c n, m.isFree c = true → 0 < n → n ≤ m.pool.instances →
        let m' := m.step (.call c (.setMaxSize n))
        (m'.pool.maxInstances = n ∧ m'.pool.instances = m.pool.instances) ∧
          ∀ more, (∀ pre move, pre ++ [move] <+: more →
              (m'.run pre).pool.maxInstances = n ∧ n ≤ (m'.run pre).pool.instances) →
            ∀ pre move, pre ++ [move] <+: more →
              (m'.run (pre ++ [move])).pool.instances ≤ (m'.run pre).pool.instances := by
  intro new m
  refine ⟨fun move hg => ?_, fun hc hs => ?_, fun c n hf hn hle => ⟨?_, fun more hkept pre move hpre => ?_⟩⟩
  · obtain ⟨hr, hmax, hinst⟩ := step_grows hg
    refine ⟨hinst, hmax, ?_⟩
    by_cases hz : m.pool.maxInstances = 0
    · exact .inl (hmax.trans hz)
    · have hlt := lt_of_hasRoom hr hz
      exact .inr (by omega)
  · exact (run_bounded (m := new) hc (Nat.zero_le _) moves hs).2
  · have hs : m.step (.call c (.setMaxSize n)) = m.setMaxSize c n := if_pos hf
    rw [hs]
    exact setMaxSize_slots m c n
  · obtain ⟨hmax, hfull⟩ := hkept pre move hpre
    rw [run_snoc]
    exact step_full (by omega) (by omega) move

end Sluice.Pool.Machine
