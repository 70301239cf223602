import Mathlib.Data.List.Induction
import Mathlib.Tactic.Common
import Sluice.Pool.Machine

/-!
# Callers that wait for a pool, where they take turns

* `Pool.AtCeiling`: nothing is to be had: no object is idle and no slot is free.
* `Machine.Settled`: callers wait only while nothing is to be had. **Every move keeps it**
  (`step_settled`), so it holds between any two moves and not only once all woken callers have run.
* `Machine.Stays`: a caller is where it was, or has been woken. **This is all that others do to it**
  (`step_stays`).
* `Machine.Awaits`: a caller that waits, or has been woken and is about to look again.
* `blocked_proceeds`: **where callers take turns, none is stranded**. A turn after which something is to be had wakes
  every caller that waits, and a woken caller takes what it finds.
-/

namespace Sluice.Pool

variable {α : Type}

/-- No object is idle and no slot is free. -/
structure AtCeiling (p : Pool α) : Prop where
  idle : p.idle = []
  capped : 0 < p.maxInstances
  full : p.maxInstances ≤ p.instances

theorem atCeiling_iff {p : Pool α} : p.AtCeiling ↔ p.idle = [] ∧ p.hasRoom = false := by
  constructor
  · intro h
    have h1 := h.capped
    have h2 := h.full
    refine ⟨h.idle, ?_⟩
    simp only [hasRoom, Bool.or_eq_false_iff, decide_eq_false_iff_not]
    omega
  · rintro ⟨hi, hr⟩
    simp only [hasRoom, Bool.or_eq_false_iff, decide_eq_false_iff_not] at hr
    exact ⟨hi, by omega, by omega⟩

namespace Machine

/-- Callers wait only while nothing is to be had. -/
def Settled (m : Machine α) : Prop := ∀ c d, m.callers c = some (.blocked d) → m.pool.AtCeiling

variable {m m' m'' : Machine α} {c c' : CallerId} {p : Phase α} {d : Option Nat}

@[simp] theorem put_self (m : Machine α) (c : CallerId) (p : Phase α) :
    (m.put c p).callers c = some p := Table.set_self _ _ _

theorem put_of_ne (h : c' ≠ c) : (m.put c p).callers c' = m.callers c' := Table.set_of_ne _ _ h

theorem settled_new (p : Pool α) : Settled ⟨p, .empty, 0, []⟩ := fun _ _ h => by simp at h

/-- Once all are woken nobody waits. -/
theorem settled_wakeAll (m : Machine α) : m.wakeAll.Settled := by
  intro c d h
  obtain ⟨p, -, hp⟩ := Option.map_eq_some_iff.1 h
  cases p <;> cases hp

/-- The callers are the same, and if nothing was to be had nothing is. -/
theorem Settled.keep (h : m.Settled) (hc : m'.callers = m.callers)
    (hp : m.pool.AtCeiling → m'.pool.AtCeiling) : m'.Settled :=
  fun c d hb => hp (h c d (hc ▸ hb))

/-- Something was to be had, so nobody waits. -/
theorem Settled.of_not (h : m.Settled) (hc : m'.callers = m.callers) (hn : ¬ m.pool.AtCeiling) :
    m'.Settled := h.keep hc fun ha => absurd ha hn

theorem Settled.put (h : m.Settled) (hp : ∀ d, p = .blocked d → m.pool.AtCeiling) :
    (m.put c p).Settled := by
  intro c' d hb
  by_cases hc : c' = c
  · subst hc
    rw [put_self] at hb
    exact hp d (Option.some.inj hb)
  · rw [put_of_ne hc] at hb
    exact h c' d hb

/-! ## Slots and objects -/

/-- **A slot that is given back is offered to those who wait** when the pool leaves its ceiling. Above
the ceiling it is not free yet, below it nobody waits. -/
theorem Settled.freeSlot (h : m.Settled) : m.freeSlot.Settled := by
  unfold Machine.freeSlot
  simp only
  split
  · exact h.keep rfl id
  · rename_i hn
    split
    · exact settled_wakeAll _
    · -- if anybody waits, the pool is above its ceiling, and comes down to it at most
      rename_i hm
      refine h.keep rfl fun ha => ⟨ha.idle, ha.capped, ?_⟩
      have hfull := ha.full
      show m.pool.maxInstances ≤ m.pool.instances - 1
      omega

theorem Settled.destroy (h : m.Settled) (c : CallerId) (obj : α) (errand : Errand) :
    (m.destroy c obj errand).Settled := by
  have hr : Settled ({ m with pool := { m.pool with removeCount := m.pool.removeCount + 1 } }.note
      (.destroyed obj)) := h.keep rfl fun ha => ⟨ha.idle, ha.capped, ha.full⟩
  exact hr.put fun _ => nofun

theorem not_atCeiling_of_cons {obj : α} {rest : List α} (hi : m.pool.idle = obj :: rest) :
    ¬ m.pool.AtCeiling := fun ha => by
  rw [ha.idle] at hi
  cases hi

theorem Settled.clear (h : m.Settled) (c : CallerId) : (m.clear c).Settled := by
  unfold Machine.clear
  split
  · exact h.put fun _ => nofun
  · rename_i obj rest hi
    have hr : Settled ({ m with pool := { m.pool with idle := rest } }.note (.cleared obj)) :=
      h.of_not rfl (not_atCeiling_of_cons hi)
    exact hr.destroy c obj .stop

theorem Settled.reuse (h : m.Settled) (c : CallerId) {obj : α} {rest : List α}
    (hi : m.pool.idle = obj :: rest) : (m.reuse c obj rest).Settled := by
  have hr : Settled ({ m with pool := { m.pool with idle := rest } }.note (.reused obj)) :=
    h.of_not rfl (not_atCeiling_of_cons hi)
  exact hr.put fun _ => nofun

theorem Settled.takeSlot (h : m.Settled) (c : CallerId) : (m.takeSlot c).Settled := by
  have hr : Settled { m with pool := { m.pool with instances := m.pool.instances + 1 } } :=
    h.keep rfl fun ha => ⟨ha.idle, ha.capped, Nat.le_succ_of_le ha.full⟩
  exact hr.put fun _ => nofun

/-! ## Calls -/

/-- An object that is kept is offered to those who wait, for they wait only at the ceiling. -/
theorem Settled.release (h : m.Settled) (c : CallerId) (obj : α) : (m.release c obj).Settled := by
  unfold Machine.release
  split
  · simp only
    split
    · exact (settled_wakeAll _).put fun _ => nofun
    · -- below the ceiling nobody waits, so nobody has to be woken
      rename_i hn
      refine Settled.put (h.of_not rfl fun ha => hn ⟨ha.capped, ha.full⟩) fun _ => nofun
  · exact h.destroy c obj .release

theorem Settled.setMaxSize (h : m.Settled) (c : CallerId) (n : Nat) : (m.setMaxSize c n).Settled := by
  unfold Machine.setMaxSize
  simp only
  split
  · -- the cap is what it was
    rename_i hn
    refine Settled.put (h.keep rfl fun ha => ?_) fun _ => nofun
    subst hn
    exact ⟨ha.idle, ha.capped, ha.full⟩
  · exact (settled_wakeAll _).put fun _ => nofun

theorem Settled.call (h : m.Settled) (c : CallerId) (k : Call α) : (m.call c k).Settled := by
  cases k with
  | get => exact h.put fun _ => nofun
  | release obj => exact h.release c obj
  | discard obj => exact h.freeSlot.destroy c obj .discard
  | stop => exact h.clear c
  | setMaxSize n => exact h.setMaxSize c n

/-! ## How a caller goes on -/

theorem Settled.attempt (h : m.Settled) (c : CallerId) (d : Option Nat) : (m.attempt c d).Settled := by
  unfold Machine.attempt
  split
  · rename_i obj rest hi
    exact h.reuse c hi
  · split
    · exact h.takeSlot c
    · exact h.put fun _ => nofun

/-- **A caller starts to wait only at the ceiling.** -/
theorem Settled.look (h : m.Settled) (c : CallerId) (d : Option Nat) : (m.look c d).Settled := by
  unfold Machine.look
  split
  · rename_i obj rest hi
    exact h.reuse c hi
  · rename_i hi
    split
    · exact h.put fun _ => nofun
    · rename_i hr
      have ha : m.pool.AtCeiling := atCeiling_iff.2 ⟨hi, by simpa using hr⟩
      split
      · exact h.put fun _ _ => ha
      · split
        · exact h.put fun _ => nofun
        · exact h.put fun _ _ => ha

theorem Settled.resume (h : m.Settled) (c : CallerId) : (m.resume c).Settled := by
  unfold Machine.resume
  split
  · exact h.attempt c _
  · exact h.look c _
  · exact h.put fun _ => nofun
  · exact h

theorem Settled.worked (h : m.Settled) (c : CallerId) (w : Work α) : (m.worked c w).Settled := by
  unfold Machine.worked
  split
  · rename_i obj _
    have hr : Settled ({ m with pool := { m.pool with createCount := m.pool.createCount + 1 } }.note
        (.created obj)) := h.keep rfl fun ha => ⟨ha.idle, ha.capped, ha.full⟩
    exact hr.put fun _ => nofun
  · -- the slot of an object that could not be made is free again
    rename_i f _
    have hr : (m.note (.createFailed f)).Settled := h.keep rfl id
    exact hr.freeSlot.put fun _ => nofun
  · exact h.freeSlot.put fun _ => nofun
  · exact h.freeSlot.put fun _ => nofun
  · exact h.put fun _ => nofun
  · exact h.freeSlot.clear c
  · exact h.put fun _ => nofun
  · exact h.freeSlot.put fun _ => nofun
  · exact h

/-- **Every move keeps the pool settled.** -/
theorem step_settled (h : m.Settled) (move : Move α) : (m.step move).Settled := by
  unfold step
  cases move with
  | call c k =>
    simp only
    split
    · exact h.call c k
    · exact h
  | resume c => exact h.resume c
  | worked c w => exact h.worked c w
  | tick millis => exact h.keep rfl id

theorem run_snoc (m : Machine α) (moves : List (Move α)) (move : Move α) :
    m.run (moves ++ [move]) = (m.run moves).step move := List.foldl_append

theorem run_settled (h : m.Settled) (moves : List (Move α)) : (m.run moves).Settled := by
  induction moves using List.reverseRecOn with
  | nil => exact h
  | append_singleton moves move ih =>
    rw [run_snoc]
    exact step_settled ih move

/-! ## Waking -/

/-- A caller is where it was, or has been woken. -/
def Stays (m m' : Machine α) (c : CallerId) : Prop :=
  m'.callers c = m.callers c ∨ m'.callers c = (m.callers c).map wake

theorem wake_wake (p : Phase α) : wake (wake p) = wake p := by cases p <;> rfl

theorem Stays.trans (h : m.Stays m' c) (h' : m'.Stays m'' c) : m.Stays m'' c := by
  rcases h with h | h <;> rcases h' with h' | h' <;> rw [h] at h'
  · exact .inl h'
  · exact .inr h'
  · exact .inr h'
  · rw [Option.map_map] at h'
    refine .inr (h'.trans ?_)
    congr 1
    exact funext wake_wake

theorem Stays.put (h : m.Stays m' c) (hc : c ≠ c') : m.Stays (m'.put c' p) c := by
  unfold Stays
  rw [put_of_ne hc]
  exact h

/-- A caller that does not wait is where it was. -/
theorem Stays.eq_of_wake (hs : m.Stays m' c) (h : m.callers c = some p) (hp : wake p = p) :
    m'.callers c = some p := by
  rcases hs with hs | hs
  · exact hs.trans h
  · rw [hs, h, Option.map_some, hp]

theorem stays_freeSlot (m : Machine α) (c : CallerId) : m.Stays m.freeSlot c := by
  unfold Machine.freeSlot
  simp only
  split
  · exact .inl rfl
  · split
    · exact .inr rfl
    · exact .inl rfl

theorem stays_destroy (m : Machine α) (hc : c ≠ c') (obj : α) (errand : Errand) :
    m.Stays (m.destroy c' obj errand) c := Stays.put (.inl rfl) hc

theorem stays_clear (m : Machine α) (hc : c ≠ c') : m.Stays (m.clear c') c := by
  unfold Machine.clear
  split
  · exact Stays.put (.inl rfl) hc
  · exact stays_destroy _ hc _ .stop

theorem stays_call (m : Machine α) (hc : c ≠ c') (k : Call α) : m.Stays (m.call c' k) c := by
  unfold Machine.call
  cases k with
  | get => exact Stays.put (.inl rfl) hc
  | release obj =>
    simp only [release]
    split
    · refine Stays.put ?_ hc
      split
      · exact .inr rfl
      · exact .inl rfl
    · exact stays_destroy m hc obj .release
  | discard obj => exact (stays_freeSlot m c).trans (stays_destroy _ hc obj .discard)
  | stop => exact stays_clear m hc
  | setMaxSize n =>
    simp only [setMaxSize]
    refine Stays.put ?_ hc
    split
    · exact .inl rfl
    · exact .inr rfl

theorem stays_resume (m : Machine α) (hc : c ≠ c') : m.Stays (m.resume c') c := by
  unfold Machine.resume
  split
  · unfold Machine.attempt
    split
    · exact Stays.put (.inl rfl) hc
    · split <;> exact Stays.put (.inl rfl) hc
  · unfold Machine.look
    split
    · exact Stays.put (.inl rfl) hc
    · split
      · exact Stays.put (.inl rfl) hc
      · split
        · exact Stays.put (.inl rfl) hc
        · split <;> exact Stays.put (.inl rfl) hc
  · exact Stays.put (.inl rfl) hc
  · exact .inl rfl

theorem stays_worked (m : Machine α) (hc : c ≠ c') (w : Work α) : m.Stays (m.worked c' w) c := by
  unfold Machine.worked
  split
  · exact Stays.put (.inl rfl) hc
  · have hn : m.Stays (m.note (.createFailed ‹_›)) c := .inl rfl
    exact (hn.trans (stays_freeSlot _ c)).put hc
  · exact (stays_freeSlot m c).put hc
  · exact (stays_freeSlot m c).put hc
  · exact Stays.put (.inl rfl) hc
  · exact (stays_freeSlot m c).trans (stays_clear _ hc)
  · exact Stays.put (.inl rfl) hc
  · exact (stays_freeSlot m c).put hc
  · exact .inl rfl

/-- The caller that a move is about. -/
def Move.caller? : Move α → Option CallerId
  | .call c _ | .resume c | .worked c _ => some c
  | .tick _ => none

/-- **The moves of others leave a caller where it is, or wake it.** -/
theorem step_stays (m : Machine α) {move : Move α} (hc : move.caller? ≠ some c) :
    m.Stays (m.step move) c := by
  cases move with
  | call c' k =>
    have hne : c ≠ c' := fun h => hc (congrArg some h.symm)
    simp only [step]
    split
    · exact stays_call m hne k
    · exact .inl rfl
  | resume c' => exact stays_resume m fun h => hc (congrArg some h.symm)
  | worked c' w => exact stays_worked m (fun h => hc (congrArg some h.symm)) w
  | tick millis => exact .inl rfl

/-- A caller waits, or has been woken and is about to look again. -/
def Awaits (m : Machine α) (c : CallerId) (d : Option Nat) : Prop :=
  m.callers c = some (.blocked d) ∨ m.callers c = some (.looking d)

theorem Stays.awaits (hs : m.Stays m' c) (h : m.Awaits c d) : m'.Awaits c d := by
  unfold Awaits
  rcases hs with hs | hs <;> rw [hs]
  · exact h
  · rcases h with h | h <;> rw [h] <;> exact .inr rfl

/-- Nothing but a wake-up moves a caller that waits. -/
theorem step_awaits (h : m.callers c = some (.blocked d)) (move : Move α) :
    (m.step move).Awaits c d := by
  have ha : m.Awaits c d := .inl h
  by_cases hc : move.caller? = some c
  · cases move with
    | call c' k =>
      -- a caller that waits makes no call
      obtain rfl : c' = c := Option.some.inj hc
      have hf : m.isFree c' = false := by simp [isFree, h]
      simp only [step, hf, Bool.false_eq_true, if_false]
      exact ha
    | resume c' =>
      obtain rfl : c' = c := Option.some.inj hc
      simp only [step, resume, h]
      exact .inr (put_self _ _ _)
    | worked c' w =>
      obtain rfl : c' = c := Option.some.inj hc
      simp only [step, worked, h]
      exact ha
    | tick millis => exact ha
  · exact (step_stays m hc).awaits ha

/-- A caller that is about to look takes an idle object, or a slot if there is one. -/
theorem looking_proceeds (h : m.callers c = some (.looking d)) (hn : ¬ m.pool.AtCeiling) :
    (∃ obj, (m.step (.resume c)).callers c = some (.returned (.got obj))) ∨
      ((m.step (.resume c)).step (.resume c)).callers c = some .creating := by
  cases hi : m.pool.idle with
  | cons obj rest =>
    refine .inl ⟨obj, ?_⟩
    simp only [step, resume, h, look, hi, reuse, put_self]
  | nil =>
    have hr : m.pool.hasRoom = true := by
      by_contra hr
      exact hn (atCeiling_iff.2 ⟨hi, by simpa using hr⟩)
    have ht : m.step (.resume c) = m.put c (.trying d) := by
      simp only [step, resume, h, look, hi, hr, if_true]
    have hp : (m.put c (.trying d)).pool = m.pool := rfl
    refine .inr ?_
    rw [ht]
    simp only [step, resume, put_self, attempt, hp, hi, hr, if_true, takeSlot]

/-- **Where callers take turns, none is stranded.** Whatever the callers and the factory do, a caller waits only while
no object is idle and no slot is free. A turn after which there is one has woken it, and if it is the next to go on
it proceeds. -/
theorem blocked_proceeds (config : PoolConfig) (moves : List (Move α))
    (h : (run ⟨Pool.ofConfig config, .empty, 0, []⟩ moves).callers c = some (.blocked d)) :
    let m := run ⟨Pool.ofConfig config, .empty, 0, []⟩ moves
    (m.pool.idle = [] ∧ 0 < m.pool.maxInstances ∧ m.pool.maxInstances ≤ m.pool.instances) ∧
      ∀ move m', m.step move = m' → m'.pool.idle ≠ [] ∨ m'.pool.hasRoom = true →
        m'.callers c = some (.looking d) ∧
          ((∃ obj, (m'.step (.resume c)).callers c = some (.returned (.got obj))) ∨
            ((m'.step (.resume c)).step (.resume c)).callers c = some .creating) := by
  intro m
  have hm : m.Settled := run_settled (settled_new _) moves
  have ha := hm c d h
  refine ⟨⟨ha.idle, ha.capped, ha.full⟩, ?_⟩
  rintro move m' rfl hfree
  have hn : ¬ (m.step move).pool.AtCeiling := by
    rw [atCeiling_iff]
    rintro ⟨hi, hr⟩
    rcases hfree with hne | hroom
    · exact hne hi
    · rw [hr] at hroom
      cases hroom
  have hlook : (m.step move).callers c = some (.looking d) := by
    rcases step_awaits h move with hb | hl
    · exact absurd (step_settled hm move c d hb) hn
    · exact hl
  exact ⟨hlook, looking_proceeds hlook hn⟩

end Machine

end Sluice.Pool
