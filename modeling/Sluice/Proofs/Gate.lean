import Mathlib.Tactic.Common
import Sluice.Gate

/-!
# Gates and their counts

`Gate.Sound`: what the fields of a gate say of each other. Every operation on a gate keeps it, so that

* a gate that drains has work in flight and holds a callback (`Sound.draining`),
* a gate that does not let work in and has none in flight is drained (`Sound.drained_of_idle`),
* work that is turned away changes nothing (`Sound.turnAway_eq`),
* `release?_cases`: a permit that comes back either leaves the state and the callback alone, or is the
  last of a gate that drains: then the callback is handed out.
-/

namespace Sluice.Gate

/-- The state of a gate fits its count and its callback. -/
structure Sound (x : Gate) : Prop where
  count : x.outstanding = x.permits.length
  draining : x.state = .draining → 0 < x.outstanding ∧ x.callback ≠ none
  drained : x.state = .drained → x.outstanding = 0 ∧ x.callback = none
  running : x.state = .running → x.callback = none

variable {x y : Gate} {p : PermitId} {cb : Option DrainCallback}

theorem sound_new (name : String) : Sound { name } :=
  ⟨rfl, fun h => by simp at h, fun h => by simp at h, fun _ => rfl⟩

theorem Sound.outstanding_nonneg (h : x.Sound) : 0 ≤ x.outstanding := by rw [h.count]; omega

/-- A gate that is closed and on which nothing is outstanding is drained. -/
theorem Sound.drained_of_idle (h : x.Sound) (hs : x.state ≠ .running) (h0 : x.outstanding = 0) :
    x.state = .drained := by
  cases hx : x.state with
  | running => exact absurd hx hs
  | draining => have := (h.draining hx).1; omega
  | drained => rfl

theorem Sound.letIn (h : x.Sound) (ho : x.isOpen = true) : (x.letIn p).Sound := by
  have hr : x.state = .running := of_decide_eq_true ho
  refine ⟨?_, fun hs => ?_, fun hs => ?_, fun _ => h.running hr⟩
  · simp only [Gate.letIn, List.length_cons, h.count]; omega
  · exact absurd (hr.symm.trans hs) (by decide)
  · exact absurd (hr.symm.trans hs) (by decide)

/-- **Work that is turned away changes nothing.** -/
theorem Sound.turnAway_eq (h : x.Sound) : x.turnAway = (x, none) := by
  unfold Gate.turnAway completeDrain
  split
  · rename_i h0
    rw [if_neg]
    rintro ⟨hd, -⟩
    have := (h.draining hd).1
    omega
  · rfl

theorem Sound.beginDrain (h : x.Sound) (c : DrainCallback) : (x.beginDrain c).Sound := by
  have h0 := h.outstanding_nonneg
  unfold Gate.beginDrain
  split
  · rename_i hz
    exact ⟨h.count, fun hs => by simp at hs, fun _ => ⟨hz, rfl⟩, fun hs => by simp at hs⟩
  · exact ⟨h.count, fun _ => ⟨show 0 < x.outstanding by omega, by simp⟩, fun hs => by simp at hs,
      fun hs => by simp at hs⟩

theorem Sound.reopen (h : x.Sound) : x.reopen.Sound :=
  ⟨h.count, fun hs => by simp [Gate.reopen] at hs, fun hs => by simp [Gate.reopen] at hs, fun _ => rfl⟩

/-- **A permit comes back**: it is the last of a gate that drains, or only the count changes. -/
theorem release?_cases (h : x.Sound) (hr : x.release? p = some (y, cb)) :
    0 < x.outstanding ∧ y.outstanding = x.outstanding - 1 ∧ y.permits = x.permits.erase p ∧
      y.name = x.name ∧ p ∈ x.permits ∧
      ((x.outstanding = 1 ∧ x.state = .draining ∧ y.state = .drained ∧ y.callback = none ∧
          cb = x.callback) ∨
        ((x.outstanding = 1 → x.state = .running) ∧ y.state = x.state ∧ y.callback = x.callback ∧
          cb = none)) := by
  unfold release? at hr
  split at hr
  swap
  · simp at hr
  rename_i hp
  have hpos : 0 < x.outstanding := by
    have := List.length_pos_of_mem hp
    rw [h.count]; omega
  simp only at hr
  split at hr
  · rename_i hlast
    obtain ⟨h1, hs⟩ := hlast
    -- closed with work in flight, so it drains
    have hd : x.state = .draining := by
      cases hx : x.state with
      | running => exact absurd hx hs
      | draining => rfl
      | drained => have := (h.drained hx).1; omega
    simp only [completeDrain, hd, h1, and_self, if_true, Option.some.injEq, Prod.mk.injEq] at hr
    obtain ⟨rfl, rfl⟩ := hr
    exact ⟨hpos, h1.symm, rfl, rfl, hp, .inl ⟨by omega, hd, rfl, rfl, rfl⟩⟩
  · rename_i hlast
    simp only [Option.some.injEq, Prod.mk.injEq] at hr
    obtain ⟨rfl, rfl⟩ := hr
    refine ⟨hpos, rfl, rfl, rfl, hp, .inr ⟨fun h1 => ?_, rfl, rfl, rfl⟩⟩
    by_contra hs
    exact hlast ⟨by omega, hs⟩

theorem Sound.release (h : x.Sound) (hr : x.release? p = some (y, cb)) : y.Sound := by
  obtain ⟨hpos, hout, hperm, -, hp, hcase⟩ := release?_cases h hr
  have hcount : y.outstanding = y.permits.length := by
    rw [hout, hperm, List.length_erase_of_mem hp, h.count]
    have := List.length_pos_of_mem hp
    omega
  rcases hcase with ⟨h1, -, hs, hcb, -⟩ | ⟨hlast, hs, hcb, -⟩
  · -- the last of a gate that drains
    refine ⟨hcount, fun hd => ?_, fun _ => ⟨by omega, hcb⟩, fun _ => hcb⟩
    rw [hs] at hd; cases hd
  · refine ⟨hcount, fun hd => ?_, fun hd => ?_, fun hd => ?_⟩
    · -- a gate that drains has another permit out, or this would have been the last
      rw [hs] at hd
      have hne : x.outstanding ≠ 1 := fun h1 => by rw [hlast h1] at hd; cases hd
      exact ⟨by omega, hcb ▸ (h.draining hd).2⟩
    · rw [hs] at hd
      have := (h.drained hd).1
      omega
    · rw [hs] at hd
      rw [hcb]; exact h.running hd

/-! ## What closing and opening leave alone -/

@[simp] theorem beginDrain_outstanding (x : Gate) (c : DrainCallback) :
    (x.beginDrain c).outstanding = x.outstanding := by unfold beginDrain; split <;> rfl

@[simp] theorem beginDrain_permits (x : Gate) (c : DrainCallback) :
    (x.beginDrain c).permits = x.permits := by unfold beginDrain; split <;> rfl

@[simp] theorem beginDrain_name (x : Gate) (c : DrainCallback) : (x.beginDrain c).name = x.name := by
  unfold beginDrain; split <;> rfl

theorem beginDrain_closed (x : Gate) (c : DrainCallback) : (x.beginDrain c).state ≠ .running := by
  unfold beginDrain; split <;> simp

theorem beginDrain_callback (x : Gate) (c : DrainCallback) (h : x.outstanding ≠ 0) :
    (x.beginDrain c).callback = some c := by unfold beginDrain; rw [if_neg h]

/-- Closing a closed gate again only changes the callback. -/
theorem beginDrain_beginDrain (x : Gate) (c d : DrainCallback) :
    (x.beginDrain c).beginDrain d = x.beginDrain d := by
  unfold beginDrain
  by_cases h : x.outstanding = 0 <;> simp [h]

@[simp] theorem reopen_outstanding (x : Gate) : x.reopen.outstanding = x.outstanding := rfl

@[simp] theorem reopen_name (x : Gate) : x.reopen.name = x.name := rfl

end Sluice.Gate
