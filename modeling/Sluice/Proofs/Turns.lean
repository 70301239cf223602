import Sluice.Proofs.Monitor

/-!
# Callers that take turns

A caller that nobody interrupts goes on until it has returned, waits, or leaves the rest to the factory. What it
does meanwhile, one access after another, is a move of a `Machine`. So whatever holds after all moves of a
`Machine` holds of the accesses of callers that take turns.

* `Shared.Turn`: the accesses of one caller alone. `Shared.Shows`: a pool with a monitor and callers is, between
  turns, as a `Machine` has it. `Shared.Others`: it is, but for one caller.
* `turn_alerting`, `turn_freeing`, `turn_clearing`, `turn_removing`: what a caller does in one go at the end of a call.
* `shows_step`, `shows_run`: **every move of a `Machine` is a turn**, and every run is a run of accesses.
-/

namespace Sluice.Pool

variable {α : Type}

/-- The place of a caller that is in a phase, between turns. -/
inductive Phase.Shown : Phase α → Place α → Prop
  | trying (deadline : Option Nat) : Shown (.trying deadline) (.taking deadline)
  | looking (deadline : Option Nat) : Shown (.looking deadline) (.locking deadline)
  | woken (deadline : Option Nat) : Shown (.looking deadline) (.relocking deadline)
  | blocked (deadline : Option Nat) : Shown (.blocked deadline) (.asleep deadline)
  | creating : Shown .creating .creating
  | destroying (obj : α) (errand : Errand) : Shown (.destroying obj errand) (.destroying obj errand)
  | returned (r : Result α) : Shown (.returned r) (.returned r)

namespace Shared

variable {s s' : Shared α} {m : Machine α} {c d : CallerId} {p : Place α} {φ : Phase α} {next : Next α} {obj : α}

/-- The accesses of one caller alone. -/
def Turn (c : CallerId) (s s' : Shared α) : Prop := ∃ n, s.run (List.replicate n (.access c)) = s'

theorem Turn.stop (s : Shared α) : Turn c s s := ⟨0, rfl⟩

/-- The caller makes an access, and then others. -/
theorem Turn.go {s₁ : Shared α} (hp : s.callers c = some p) (hgo : s.go c p = s₁) (h : Turn c s₁ s') :
    Turn c s s' := by
  obtain ⟨n, rfl⟩ := h
  have hs : s.step (.access c) = s₁ := by simp only [step, access, hp, hgo]
  refine ⟨n + 1, ?_⟩
  rw [List.replicate_succ, ← hs]
  rfl

/-- The caller makes one access. -/
theorem Turn.one {s₁ : Shared α} (hp : s.callers c = some p) (hgo : s.go c p = s₁) : Turn c s s₁ :=
  .go hp hgo (.stop s₁)

theorem Turn.trans {s'' : Shared α} (h : Turn c s s') (h' : Turn c s' s'') : Turn c s s'' := by
  obtain ⟨n, rfl⟩ := h
  obtain ⟨k, rfl⟩ := h'
  refine ⟨n + k, ?_⟩
  rw [← List.replicate_append_replicate]
  exact List.foldl_append

theorem Turn.sound (h : Turn c s s') (hs : s.Sound) : s'.Sound := by
  obtain ⟨n, rfl⟩ := h
  exact run_sound hs _

/-- A pool is as a `Machine` has it, but for one caller. -/
structure Others (s : Shared α) (m : Machine α) (c : CallerId) : Prop where
  pool : s.pool = m.pool
  clock : s.clock = m.clock
  journal : s.journal = m.journal
  callers : ∀ d, d ≠ c → Option.Rel Phase.Shown (m.callers d) (s.callers d)

/-- A pool is as a `Machine` has it, and no caller is under way. -/
structure Shows (s : Shared α) (m : Machine α) : Prop where
  pool : s.pool = m.pool
  clock : s.clock = m.clock
  journal : s.journal = m.journal
  monitor : s.monitor = none
  callers : ∀ c, Option.Rel Phase.Shown (m.callers c) (s.callers c)

theorem Shows.others (h : s.Shows m) (c : CallerId) : s.Others m c :=
  ⟨h.pool, h.clock, h.journal, fun d _ => h.callers d⟩

theorem Others.put (h : s.Others m c) (p : Place α) : (s.put c p).Others m c := by
  refine ⟨h.pool, h.clock, h.journal, fun d hd => ?_⟩
  rw [put_of_ne hd]
  exact h.callers d hd

theorem Others.note (h : s.Others m c) (o : Occurrence α) : (s.note o).Others (m.note o) c := by
  refine ⟨h.pool, h.clock, ?_, h.callers⟩
  show o :: s.journal = o :: m.journal
  rw [h.journal]

/-- The same happens to the pools. -/
theorem Others.inPool (h : s.Others m c) (f : Pool α → Pool α) :
    { s with pool := f s.pool }.Others { m with pool := f m.pool } c :=
  ⟨congrArg f h.pool, h.clock, h.journal, h.callers⟩

/-- The monitor and the count of those who wait do not matter. -/
theorem Others.congr (h : s.Others m c) (hp : s'.pool = s.pool) (ht : s'.clock = s.clock)
    (hj : s'.journal = s.journal) (hc : s'.callers = s.callers) : s'.Others m c :=
  ⟨hp.trans h.pool, ht.trans h.clock, hj.trans h.journal, fun d hd => hc ▸ h.callers d hd⟩

/-- The caller has gone where its phase says. -/
theorem Others.shows (h : s.Others m c) (hm : s.monitor = none) (hp : s.callers c = some p) (hφ : φ.Shown p) :
    s.Shows (m.put c φ) := by
  refine ⟨h.pool, h.clock, h.journal, hm, fun d => ?_⟩
  by_cases hd : d = c
  · subst hd
    rw [Machine.put_self, hp]
    exact .some hφ
  · rw [Machine.put_of_ne hd]
    exact h.callers d hd

theorem Others.shows_put (h : s.Others m c) (hm : s.monitor = none) (hφ : φ.Shown p) :
    (s.put c p).Shows (m.put c φ) := (h.put p).shows hm (put_self s c p) hφ

/-- A caller and its phase are woken together. -/
theorem shown_rouse {x : Option (Phase α)} {y : Option (Place α)} (h : Option.Rel Phase.Shown x y) :
    Option.Rel Phase.Shown (x.map Machine.wake) (y.map rouse) := by
  cases h with
  | none => exact .none
  | some h => cases h <;> exact .some (by constructor)

/-- A caller that does not sleep is not woken. -/
theorem shown_wake {x : Option (Phase α)} {y : Option (Place α)} (h : Option.Rel Phase.Shown x y)
    (hy : ∀ deadline, y ≠ some (.asleep deadline)) : Option.Rel Phase.Shown (x.map Machine.wake) y := by
  cases h with
  | none => exact .none
  | some h =>
    cases h with
    | blocked deadline => exact absurd rfl (hy deadline)
    | _ => exact .some (by constructor)

theorem Others.rouseAll (h : s.Others m c) : s.rouseAll.Others m.wakeAll c :=
  ⟨h.pool, h.clock, h.journal, fun d hd => shown_rouse (h.callers d hd)⟩

/-- Nobody has counted itself, so nobody sleeps. -/
theorem Others.wakeAll (h : s.Others m c) (hs : s.Counted) (hn : s.waiters = 0) : s.Others m.wakeAll c := by
  refine ⟨h.pool, h.clock, h.journal, fun d hd => shown_wake (h.callers d hd) fun deadline hp => ?_⟩
  have hpos := Tally.pos hs (flag_of hp)
  omega

/-! ## The end of a call -/

/-- **Those who wait are woken**, if there are any. -/
theorem turn_alerting (hs : s.Sound) (h : s.Others m c) (hm : s.monitor = none)
    (hp : s.callers c = some (.alerting next)) :
    ∃ s', Turn c s s' ∧ s'.Others m.wakeAll c ∧ s'.monitor = none ∧ s'.callers c = some next.place := by
  by_cases hn : s.waiters = 0
  · have hgo : s.go c (.alerting next) = s.put c next.place := by simp only [Shared.go, hn, if_true]
    exact ⟨_, .one hp hgo, (h.wakeAll hs.counted hn).put _, hm, put_self _ _ _⟩
  · let s₁ := s.put c (.calling next)
    let s₂ : Shared α := { s₁ with monitor := some c }.put c (.waking next)
    let s₃ := s₂.rouseAll.put c (.leaving next)
    have h₁ : s.go c (.alerting next) = s₁ := by simp only [Shared.go, if_neg hn, s₁]
    have h₂ : s₁.go c (.calling next) = s₂ := if_pos hm
    have hturn : Turn c s (s₃.unlock c next.place) :=
      .go hp h₁ (.go (put_self _ _ _) h₂ (.go (put_self _ _ _) rfl (.one (put_self _ _ _) rfl)))
    have hlocked : Others { s₁ with monitor := some c } m c := (h.put _).congr rfl rfl rfl rfl
    have hwoken : s₃.Others m.wakeAll c := (hlocked.put _).rouseAll.put _
    have hleft : Others { s₃ with monitor := none } m.wakeAll c := hwoken.congr rfl rfl rfl rfl
    exact ⟨_, hturn, hleft.put _, rfl, put_self _ _ _⟩

/-- **A slot is given back.** -/
theorem turn_freeing (hs : s.Sound) (h : s.Others m c) (hm : s.monitor = none)
    (hp : s.callers c = some (.freeing next)) :
    ∃ s', Turn c s s' ∧ s'.Others m.freeSlot c ∧ s'.monitor = none ∧ s'.callers c = some next.place := by
  have hinst : s.pool.instances = m.pool.instances := by rw [h.pool]
  have hcap : s.pool.maxInstances = m.pool.maxInstances := by rw [h.pool]
  unfold Machine.freeSlot
  simp only
  by_cases hn : m.pool.instances = 0
  · have hgo : s.go c (.freeing next) = (s.note .underflow).put c next.place := if_pos (hinst.trans hn)
    rw [if_pos hn]
    exact ⟨_, .one hp hgo, (h.note _).put _, hm, put_self _ _ _⟩
  · let s₁ : Shared α := { s with pool := { s.pool with instances := s.pool.instances - 1 } }.put c
      (.weighing s.pool.instances next)
    have h₁ : s.go c (.freeing next) = s₁ := if_neg (hinst ▸ hn)
    have hone : Turn c s s₁ := .one hp h₁
    have ho : s₁.Others { m with pool := { m.pool with instances := m.pool.instances - 1 } } c :=
      (h.inPool fun p => { p with instances := p.instances - 1 }).put _
    rw [if_neg hn]
    by_cases hw : m.pool.instances = m.pool.maxInstances
    · have h₂ : s₁.go c (.weighing s.pool.instances next) = s₁.put c (.alerting next) :=
        congrArg (s₁.put c) (if_pos (hinst.trans (hw.trans hcap.symm)))
      have hturn : Turn c s (s₁.put c (.alerting next)) := hone.trans (.one (put_self _ _ _) h₂)
      obtain ⟨s', hturn', hwoken⟩ := turn_alerting (hturn.sound hs) (ho.put _) hm (put_self _ _ _)
      rw [if_pos hw]
      exact ⟨s', hturn.trans hturn', hwoken⟩
    · have h₂ : s₁.go c (.weighing s.pool.instances next) = s₁.put c next.place :=
        congrArg (s₁.put c) (if_neg fun he => hw (hinst.symm.trans (he.trans hcap)))
      rw [if_neg hw]
      exact ⟨_, hone.trans (.one (put_self _ _ _) h₂), ho.put _, hm, put_self _ _ _⟩

theorem turn_removing {errand : Errand} (h : s.Others m c) (hm : s.monitor = none)
    (hp : s.callers c = some (.removing obj errand)) :
    ∃ s', Turn c s s' ∧ s'.Shows (m.destroy c obj errand) :=
  ⟨_, .one hp rfl, Others.shows_put ((h.inPool fun p => { p with removeCount := p.removeCount + 1 }).note
    (.destroyed obj)) hm (.destroying obj errand)⟩

theorem turn_clearing (h : s.Others m c) (hm : s.monitor = none) (hp : s.callers c = some .clearing) :
    ∃ s', Turn c s s' ∧ s'.Shows (m.clear c) := by
  have hpool := h.pool
  unfold Machine.clear
  cases hi : m.pool.idle with
  | nil =>
    have hgo : s.go c .clearing = s.put c (.returned .done) := by simp only [Shared.go, hpool, hi]
    exact ⟨_, .one hp hgo, h.shows_put hm (.returned .done)⟩
  | cons obj rest =>
    have hgo : s.go c .clearing = (s.take rest (.cleared obj)).put c (.removing obj .stop) := by
      simp only [Shared.go, hpool, hi]
    have ho : (s.take rest (.cleared obj)).Others
        ({ m with pool := { m.pool with idle := rest } }.note (.cleared obj)) c :=
      (h.inPool fun p => { p with idle := rest }).note _
    obtain ⟨s', hturn, hshows⟩ := turn_removing (ho.put _) hm (put_self _ _ _)
    exact ⟨s', .go hp hgo hturn, hshows⟩

/-- The call is over once a slot has been given back. -/
theorem turn_done {r : Result α} (hs : s.Sound) (h : s.Others m c) (hm : s.monitor = none)
    (hp : s.callers c = some (.freeing (.done r))) :
    ∃ s', Turn c s s' ∧ s'.Shows (m.freeSlot.put c (.returned r)) := by
  obtain ⟨s', hturn, ho, hm', hp'⟩ := turn_freeing hs h hm hp
  exact ⟨s', hturn, ho.shows hm' hp' (.returned r)⟩

/-! ## Calls -/

/-- **An object is given back.** -/
theorem turn_pushing (hs : s.Sound) (h : s.Others m c) (hm : s.monitor = none)
    (hp : s.callers c = some (.pushing obj)) : ∃ s', Turn c s s' ∧ s'.Shows (m.release c obj) := by
  have hpool := h.pool
  unfold Machine.release
  by_cases hroom : m.pool.idle.length < m.pool.poolSize
  · let s₁ : Shared α := ({ s with pool := { s.pool with idle := s.pool.idle ++ [obj] } }.note (.kept obj)).put c .kept
    have h₁ : s.go c (.pushing obj) = s₁ := if_pos (hpool ▸ hroom)
    have ho : s₁.Others ({ m with pool := { m.pool with idle := m.pool.idle ++ [obj] } }.note (.kept obj)) c :=
      ((h.inPool fun p => { p with idle := p.idle ++ [obj] }).note _).put _
    have hcap : s₁.pool.maxInstances = m.pool.maxInstances := by rw [ho.pool]; rfl
    have hinst : s₁.pool.instances = m.pool.instances := by rw [ho.pool]; rfl
    have hone : Turn c s s₁ := .one hp h₁
    simp only [hroom, if_true]
    by_cases hz : m.pool.maxInstances = 0
    · have h₂ : s₁.go c .kept = s₁.put c (.returned .done) :=
        congrArg (s₁.put c) (if_pos (hcap.trans hz))
      rw [if_neg (by omega)]
      exact ⟨_, hone.trans (.one (put_self _ _ _) h₂), ho.shows_put hm (.returned .done)⟩
    · let s₂ := s₁.put c (.keptUnder m.pool.maxInstances)
      have h₂ : s₁.go c .kept = s₂ := by simp only [Shared.go, hcap, if_neg hz, s₂]
      have htwo : Turn c s s₂ := hone.trans (.one (put_self _ _ _) h₂)
      by_cases hfull : m.pool.maxInstances ≤ m.pool.instances
      · have h₃ : s₂.go c (.keptUnder m.pool.maxInstances) = s₂.put c (.alerting (.done .done)) :=
          congrArg (s₂.put c) (if_pos (hinst.symm ▸ hfull))
        have hturn : Turn c s (s₂.put c (.alerting (.done .done))) := htwo.trans (.one (put_self _ _ _) h₃)
        obtain ⟨s', hturn', ho', hm', hp'⟩ :=
          turn_alerting (hturn.sound hs) ((ho.put _).put _) hm (put_self _ _ _)
        rw [if_pos (by omega)]
        exact ⟨s', hturn.trans hturn', ho'.shows hm' hp' (.returned .done)⟩
      · have h₃ : s₂.go c (.keptUnder m.pool.maxInstances) = s₂.put c (.returned .done) :=
          congrArg (s₂.put c) (if_neg fun he => hfull (hinst ▸ he))
        rw [if_neg (by omega)]
        exact ⟨_, htwo.trans (.one (put_self _ _ _) h₃), (ho.put _).shows_put hm (.returned .done)⟩
  · have hgo : s.go c (.pushing obj) = s.put c (.removing obj .release) := if_neg (hpool ▸ hroom)
    obtain ⟨s', hturn, hshows⟩ := turn_removing (h.put _) hm (put_self s c _)
    rw [if_neg hroom]
    exact ⟨s', .go hp hgo hturn, hshows⟩

/-- **The cap is changed.** -/
theorem turn_capping {n : Nat} (hs : s.Sound) (h : s.Others m c) (hm : s.monitor = none)
    (hp : s.callers c = some (.capping n)) : ∃ s', Turn c s s' ∧ s'.Shows (m.setMaxSize c n) := by
  have hcap : s.pool.maxInstances = m.pool.maxInstances := by rw [h.pool]
  let v : Shared α := { s with pool := { s.pool with maxInstances := n } }
  have ho : v.Others { m with pool := { m.pool with maxInstances := n } } c :=
    h.inPool fun p => { p with maxInstances := n }
  unfold Machine.setMaxSize
  simp only
  by_cases hn : m.pool.maxInstances = n
  · have hgo : s.go c (.capping n) = v.put c (.returned .done) := congrArg (v.put c) (if_pos (hcap.trans hn))
    rw [if_pos hn]
    exact ⟨_, .one hp hgo, ho.shows_put hm (.returned .done)⟩
  · have hgo : s.go c (.capping n) = v.put c (.alerting (.done .done)) :=
      congrArg (v.put c) (if_neg fun he => hn (hcap.symm.trans he))
    have hturn : Turn c s (v.put c (.alerting (.done .done))) := .one hp hgo
    obtain ⟨s', hturn', ho', hm', hp'⟩ := turn_alerting (hturn.sound hs) (ho.put _) hm (put_self _ _ _)
    rw [if_neg hn]
    exact ⟨s', hturn.trans hturn', ho'.shows hm' hp' (.returned .done)⟩

/-! ## How a caller goes on -/

/-- The cap and the slots as they are read. -/
theorem Others.hasRoom (h : s.Others m c) :
    m.pool.hasRoom = true ↔ s.pool.maxInstances = 0 ∨ s.pool.instances < s.pool.maxInstances := by
  rw [h.pool]
  simp [Pool.hasRoom]

/-- **A caller tries**: it takes an idle object, or else a slot, or else is about to wait. -/
theorem turn_taking {deadline : Option Nat} (h : s.Others m c) (hm : s.monitor = none)
    (hp : s.callers c = some (.taking deadline)) : ∃ s', Turn c s s' ∧ s'.Shows (m.attempt c deadline) := by
  have hpool := h.pool
  unfold Machine.attempt
  cases hi : m.pool.idle with
  | cons obj rest =>
    have hgo : s.go c (.taking deadline) = (s.take rest (.reused obj)).put c (.returned (.got obj)) := by
      simp only [Shared.go, hpool, hi]
    exact ⟨_, .one hp hgo, Others.shows_put ((h.inPool fun p => { p with idle := rest }).note _) hm
      (.returned (.got obj))⟩
  | nil =>
    let s₁ := s.put c (.reading deadline)
    let s₂ := s₁.put c (.raising s.pool.maxInstances deadline)
    have h₁ : s.go c (.taking deadline) = s₁ := by simp only [Shared.go, hpool, hi, s₁]
    have htwo : Turn c s s₂ := .go hp h₁ (.one (put_self _ _ _) rfl)
    have ho : s₂.Others m c := (h.put _).put _
    by_cases hr : s.pool.maxInstances = 0 ∨ s.pool.instances < s.pool.maxInstances
    · have h₃ : s₂.go c (.raising s.pool.maxInstances deadline) =
          { s₂ with pool := { s₂.pool with instances := s₂.pool.instances + 1 } }.put c .creating := if_pos hr
      simp only [h.hasRoom.2 hr, if_true]
      exact ⟨_, htwo.trans (.one (put_self _ _ _) h₃),
        Others.shows_put (ho.inPool fun p => { p with instances := p.instances + 1 }) hm .creating⟩
    · have h₃ : s₂.go c (.raising s.pool.maxInstances deadline) = s₂.put c (.locking deadline) := if_neg hr
      simp only [mt h.hasRoom.1 hr, Bool.false_eq_true, if_false]
      exact ⟨_, htwo.trans (.one (put_self _ _ _) h₃), ho.shows_put hm (.looking deadline)⟩

/-- A caller that holds the monitor counts itself no more, lets the monitor go, and has its result or starts
anew. -/
theorem turn_uncounting {deadline : Option Nat} {r : Option (Result α)} (h : s.Others m c)
    (hp : s.callers c = some (.uncounting r deadline)) :
    ∃ s', Turn c s s' ∧ s'.Shows (m.put c (r.elim (.trying deadline) .returned)) := by
  have hcount : Others { s with waiters := s.waiters - 1 } m c := h.congr rfl rfl rfl rfl
  have hopen : Others { ({ s with waiters := s.waiters - 1 }.put c (.unlocking r deadline) : Shared α) with
      monitor := none } m c := (hcount.put _).congr rfl rfl rfl rfl
  refine ⟨_, .go hp rfl (.one (put_self _ _ _) rfl), hopen.shows_put rfl ?_⟩
  cases r with
  | none => exact .trying deadline
  | some r => exact .returned r

/-- Nothing is to be had: a caller that holds the monitor waits without it, or gives up. -/
theorem turn_resigning {deadline : Option Nat} (h : s.Others m c) (hp : s.callers c = some (.resigning deadline))
    (hi : m.pool.idle = []) (hr : m.pool.hasRoom = false) :
    ∃ s', Turn c s s' ∧ s'.Shows (m.look c deadline) := by
  have hopen : Others { s with monitor := none } m c := h.congr rfl rfl rfl rfl
  have hclock := h.clock
  unfold Machine.look
  simp only [hi, hr, Bool.false_eq_true, if_false]
  cases deadline with
  | none => exact ⟨_, .one hp rfl, hopen.shows_put rfl (.blocked none)⟩
  | some t =>
    by_cases ht : t ≤ m.clock
    · have hmillis : s.pool.timeoutMillis = m.pool.timeoutMillis := by rw [h.pool]
      have hgo : s.go c (.resigning (some t)) =
          s.put c (.uncounting (some (.exhausted m.pool.timeoutMillis)) (some t)) := by
        simp only [Shared.go, hclock, ht, if_true, hmillis]
      obtain ⟨s', hturn, hshows⟩ := turn_uncounting (h.put _) (put_self s c _)
      simp only [ht, if_true]
      exact ⟨s', .go hp hgo hturn, hshows⟩
    · have hgo : s.go c (.resigning (some t)) = s.unlock c (.asleep (some t)) := by
        simp only [Shared.go, hclock, if_neg ht]
      simp only [if_neg ht]
      exact ⟨_, .one hp hgo, hopen.shows_put rfl (.blocked (some t))⟩

/-- **A caller that holds the monitor looks again before it waits.** -/
theorem turn_retaking {deadline : Option Nat} (h : s.Others m c)
    (hp : s.callers c = some (.retaking deadline)) : ∃ s', Turn c s s' ∧ s'.Shows (m.look c deadline) := by
  have hpool := h.pool
  cases hi : m.pool.idle with
  | cons obj rest =>
    have hlook : m.look c deadline = m.reuse c obj rest := by simp only [Machine.look, hi]
    have hgo : s.go c (.retaking deadline) =
        (s.take rest (.reused obj)).put c (.uncounting (some (.got obj)) deadline) := by
      simp only [Shared.go, hpool, hi]
    have ho := (h.inPool fun p => { p with idle := rest }).note (.reused obj)
    obtain ⟨s', hturn, hshows⟩ := turn_uncounting (ho.put _) (put_self _ _ _)
    rw [hlook]
    exact ⟨s', .go hp hgo hturn, hshows⟩
  | nil =>
    -- a slot is free: everything starts anew
    have hfree (hr : m.pool.hasRoom = true) {s₁ : Shared α} (hturn : Turn c s (s₁.put c (.uncounting none deadline)))
        (ho : s₁.Others m c) : ∃ s', Turn c s s' ∧ s'.Shows (m.look c deadline) := by
      have hlook : m.look c deadline = m.put c (.trying deadline) := by simp only [Machine.look, hi, hr, if_true]
      obtain ⟨s', hturn', hshows⟩ := turn_uncounting (ho.put _) (put_self s₁ c (.uncounting none deadline))
      rw [hlook]
      exact ⟨s', hturn.trans hturn', hshows⟩
    let s₁ := s.put c (.rereading deadline)
    let s₂ := s₁.put c (.comparing s.pool.maxInstances deadline)
    have h₁ : s.go c (.retaking deadline) = s₁ := by simp only [Shared.go, hpool, hi, s₁]
    have hone : Turn c s s₁ := .one hp h₁
    by_cases hz : s.pool.maxInstances = 0
    · have h₂ : s₁.go c (.rereading deadline) = s₁.put c (.uncounting none deadline) :=
        congrArg (s₁.put c) (if_pos hz)
      exact hfree (h.hasRoom.2 (.inl hz)) (hone.trans (.one (put_self _ _ _) h₂)) (h.put _)
    have h₂ : s₁.go c (.rereading deadline) = s₂ := congrArg (s₁.put c) (if_neg hz)
    have htwo : Turn c s s₂ := hone.trans (.one (put_self _ _ _) h₂)
    have ho : s₂.Others m c := (h.put _).put _
    by_cases hr : s.pool.instances < s.pool.maxInstances
    · have h₃ : s₂.go c (.comparing s.pool.maxInstances deadline) = s₂.put c (.uncounting none deadline) :=
        congrArg (s₂.put c) (if_pos hr)
      exact hfree (h.hasRoom.2 (.inr hr)) (htwo.trans (.one (put_self _ _ _) h₃)) ho
    · have h₃ : s₂.go c (.comparing s.pool.maxInstances deadline) = s₂.put c (.resigning deadline) :=
        congrArg (s₂.put c) (if_neg hr)
      have hfull : m.pool.hasRoom = false := by
        rw [← Bool.not_eq_true, h.hasRoom]
        exact not_or.2 ⟨hz, hr⟩
      obtain ⟨s', hturn, hshows⟩ := turn_resigning (ho.put _) (put_self s₂ c (.resigning deadline)) hi hfull
      exact ⟨s', htwo.trans (.go (put_self _ _ _) h₃ hturn), hshows⟩

/-! ## Moves -/

/-- What a move of a `Machine` stands for: a series of moves of the same caller. -/
def Takes (s : Shared α) (m : Machine α) (caller : Option CallerId) : Prop :=
  ∃ moves : List (Move α), (∀ move ∈ moves, move.caller? = caller) ∧ (s.run moves).Shows m

theorem Takes.nothing (h : s.Shows m) (caller : Option CallerId) : s.Takes m caller := ⟨[], nofun, h⟩

/-- A move, and what the caller does alone after it. -/
theorem Takes.begin (move : Move α) (hc : move.caller? = some c)
    (h : ∃ s', Turn c (s.step move) s' ∧ s'.Shows m) : s.Takes m (some c) := by
  obtain ⟨_, ⟨n, rfl⟩, hshows⟩ := h
  refine ⟨move :: List.replicate n (.access c), fun x hx => ?_, hshows⟩
  rcases List.mem_cons.1 hx with rfl | hx
  · exact hc
  · rw [List.eq_of_mem_replicate hx]
    rfl

theorem Takes.turn (h : ∃ s', Turn c s s' ∧ s'.Shows m) : s.Takes m (some c) := by
  obtain ⟨_, ⟨n, rfl⟩, hshows⟩ := h
  exact ⟨List.replicate n (.access c), fun x hx => by rw [List.eq_of_mem_replicate hx]; rfl, hshows⟩

/-- A caller that is in a phase is where it says. -/
theorem Shows.place (h : s.Shows m) (hφ : m.callers c = some φ) : ∃ p, s.callers c = some p ∧ φ.Shown p := by
  have hrel := h.callers c
  rw [hφ] at hrel
  generalize s.callers c = y at hrel ⊢
  cases hrel with
  | some hp => exact ⟨_, rfl, hp⟩

theorem Shows.creating (h : s.Shows m) (hφ : m.callers c = some .creating) : s.callers c = some .creating := by
  obtain ⟨p, hp, hshown⟩ := h.place hφ
  cases hshown
  exact hp

theorem Shows.destroying {errand : Errand} (h : s.Shows m) (hφ : m.callers c = some (.destroying obj errand)) :
    s.callers c = some (.destroying obj errand) := by
  obtain ⟨p, hp, hshown⟩ := h.place hφ
  cases hshown
  exact hp

theorem Shows.isFree (h : s.Shows m) (hf : m.isFree c = true) : s.isFree c = true := by
  have hrel := h.callers c
  unfold Machine.isFree at hf
  unfold Shared.isFree
  generalize m.callers c = x at hrel hf
  generalize s.callers c = y at hrel ⊢
  cases hrel with
  | none => rfl
  | some hp =>
    cases hp with
    | returned r => rfl
    | _ => cases hf

theorem Shows.deadline (h : s.Shows m) : s.deadline = m.deadline := by
  unfold Shared.deadline Machine.deadline
  rw [h.pool, h.clock]

/-- **A call starts**, and the caller goes on alone. -/
theorem Takes.call (hs : s.Sound) (h : s.Shows m) (hf : m.isFree c = true) (k : Call α) :
    s.Takes (m.call c k) (some c) := by
  have hstep : s.step (.call c k) = s.put c (s.start k) := if_pos (h.isFree hf)
  have hsound := step_sound hs (.call c k)
  have ho : (s.put c (s.start k)).Others m c := (h.others c).put _
  refine .begin (.call c k) rfl ?_
  rw [hstep] at hsound ⊢
  cases k with
  | get =>
    refine ⟨_, .stop _, (h.others c).shows_put h.monitor ?_⟩
    rw [← h.deadline]
    exact .trying _
  | release obj => exact turn_pushing hsound ho h.monitor (put_self _ _ _)
  | discard obj =>
    obtain ⟨s', hturn, ho', hm', hp'⟩ := turn_freeing hsound ho h.monitor (put_self _ _ _)
    obtain ⟨s'', hturn', hshows⟩ := turn_removing ho' hm' hp'
    exact ⟨s'', hturn.trans hturn', hshows⟩
  | stop => exact turn_clearing ho h.monitor (put_self _ _ _)
  | setMaxSize n => exact turn_capping hsound ho h.monitor (put_self _ _ _)

/-- **A caller goes on.** -/
theorem Takes.resume (h : s.Shows m) (c : CallerId) : s.Takes (m.resume c) (some c) := by
  have ho := h.others c
  unfold Machine.resume
  split
  · rename_i deadline hφ
    obtain ⟨p, hp, hshown⟩ := h.place hφ
    cases hshown
    exact .turn (turn_taking ho h.monitor hp)
  · rename_i deadline hφ
    obtain ⟨p, hp, hshown⟩ := h.place hφ
    cases hshown with
    | looking =>
      let s₁ : Shared α := { s with monitor := some c }.put c (.counting deadline)
      let s₂ : Shared α := { s₁ with waiters := s₁.waiters + 1 }.put c (.retaking deadline)
      have h₁ : s.go c (.locking deadline) = s₁ := if_pos h.monitor
      have hlocked : Others { s with monitor := some c } m c := ho.congr rfl rfl rfl rfl
      have hcounted : Others { s₁ with waiters := s₁.waiters + 1 } m c := (hlocked.put _).congr rfl rfl rfl rfl
      obtain ⟨s', hturn, hshows⟩ := turn_retaking (hcounted.put _) (put_self _ _ _)
      exact .turn ⟨s', .go hp h₁ (.go (put_self _ _ _) rfl hturn), hshows⟩
    | woken =>
      have h₁ : s.go c (.relocking deadline) = { s with monitor := some c }.put c (.retaking deadline) :=
        if_pos h.monitor
      have hlocked : Others { s with monitor := some c } m c := ho.congr rfl rfl rfl rfl
      obtain ⟨s', hturn, hshows⟩ := turn_retaking (hlocked.put _) (put_self _ _ _)
      exact .turn ⟨s', .go hp h₁ hturn, hshows⟩
  · rename_i deadline hφ
    obtain ⟨p, hp, hshown⟩ := h.place hφ
    cases hshown
    have hstep : s.step (.rouse c) = s.put c (.relocking deadline) := by simp only [step, hp]
    refine .begin (.rouse c) rfl ⟨_, .stop _, ?_⟩
    rw [hstep]
    exact ho.shows_put h.monitor (.woken deadline)
  · exact .nothing h _

/-- What the caller does when the factory has been at work. -/
theorem Takes.afterWork {w : Machine.Work α} {s₁ : Shared α} (hs : s.Sound) (hw : s.worked c w = s₁)
    (h : s₁.Sound → ∃ s', Turn c s₁ s' ∧ s'.Shows m) : s.Takes m (some c) := by
  have hstep : s.step (.worked c w) = s₁ := hw
  refine .begin (.worked c w) rfl ?_
  rw [hstep]
  exact h (hstep ▸ step_sound hs (.worked c w))

/-- **The factory has been at work**, and the caller goes on alone. -/
theorem Takes.worked (hs : s.Sound) (h : s.Shows m) (c : CallerId) (w : Machine.Work α) :
    s.Takes (m.worked c w) (some c) := by
  have ho := h.others c
  -- the call is over once the slot has been given back
  have hover {r : Result α} (hw : s.worked c w = s.put c (.freeing (.done r))) :
      s.Takes (m.freeSlot.put c (.returned r)) (some c) :=
    .afterWork hs hw fun hs₁ => turn_done hs₁ (ho.put _) h.monitor (put_self _ _ _)
  have hback {r : Result α} (hw : s.worked c w = s.put c (.returned r)) :
      s.Takes (m.put c (.returned r)) (some c) :=
    .afterWork hs hw fun _ => ⟨_, .stop _, ho.shows_put h.monitor (.returned r)⟩
  unfold Machine.worked
  split
  · rename_i obj hφ
    have hp := h.creating hφ
    have hw : s.worked c (.made obj) = ({ s with pool := { s.pool with
        createCount := s.pool.createCount + 1 } }.note (.created obj)).put c (.returned (.got obj)) := by
      simp only [Shared.worked, hp]
    have hmade := (ho.inPool fun p => { p with createCount := p.createCount + 1 }).note (.created obj)
    exact .afterWork hs hw fun _ => ⟨_, .stop _, hmade.shows_put h.monitor (.returned (.got obj))⟩
  · rename_i f hφ
    have hp := h.creating hφ
    have hw : s.worked c (.failed f) = (s.note (.createFailed f)).put c (.freeing (.done (.failed f))) := by
      simp only [Shared.worked, hp]
    exact .afterWork hs hw fun hs₁ => turn_done hs₁ ((ho.note _).put _) h.monitor (put_self _ _ _)
  · rename_i payload hφ
    have hp := h.creating hφ
    exact hover (by simp only [Shared.worked, hp])
  · rename_i obj hφ
    have hp := h.destroying hφ
    exact hover (by simp only [Shared.worked, hp])
  · rename_i obj hφ
    have hp := h.destroying hφ
    exact hback (by simp only [Shared.worked, hp])
  · rename_i obj hφ
    have hp := h.destroying hφ
    have hw : s.worked c .destroyed = s.put c (.freeing .clear) := by simp only [Shared.worked, hp]
    refine .afterWork hs hw fun hs₁ => ?_
    obtain ⟨s', hturn, ho', hm', hp'⟩ := turn_freeing hs₁ (ho.put _) h.monitor (put_self _ _ _)
    obtain ⟨s'', hturn', hshows⟩ := turn_clearing ho' hm' hp'
    exact ⟨s'', hturn.trans hturn', hshows⟩
  · rename_i obj payload hφ
    have hp := h.destroying hφ
    exact hback (by simp only [Shared.worked, hp])
  · rename_i obj errand payload hne hφ
    have hp := h.destroying hφ
    refine hover ?_
    cases errand with
    | discard => exact absurd rfl hne
    | release | stop => simp only [Shared.worked, hp]
  · exact .nothing h _

/-- **Every move of a `Machine` is a turn**: a series of moves of the same caller, without any of others. -/
theorem shows_step (hs : s.Sound) (h : s.Shows m) (move : Machine.Move α) :
    s.Takes (m.step move) move.caller? := by
  cases move with
  | call c k =>
    simp only [Machine.step]
    split
    · exact .call hs h ‹_› k
    · exact .nothing h _
  | resume c => exact .resume h c
  | worked c w => exact .worked hs h c w
  | tick millis =>
    refine ⟨[.tick millis], fun move hm => by rw [List.mem_singleton.1 hm]; rfl, ?_⟩
    exact ⟨h.pool, congrArg (· + millis) h.clock, h.journal, h.monitor, h.callers⟩

theorem shows_ofConfig (config : PoolConfig) :
    (ofConfig config : Shared α).Shows ⟨Pool.ofConfig config, .empty, 0, []⟩ :=
  ⟨rfl, rfl, rfl, rfl, fun _ => .none⟩

/-- **Every run of a `Machine` is a run of accesses** of callers that take turns. -/
theorem shows_run (config : PoolConfig) (moves : List (Machine.Move α)) :
    ∃ accesses, ((ofConfig config).run accesses).Shows
      (Machine.run ⟨Pool.ofConfig config, .empty, 0, []⟩ moves) := by
  induction moves using List.reverseRecOn with
  | nil => exact ⟨[], shows_ofConfig config⟩
  | append_singleton moves move ih =>
    obtain ⟨accesses, hshows⟩ := ih
    obtain ⟨more, -, hmore⟩ := shows_step (run_sound (sound_ofConfig config) accesses) hshows move
    refine ⟨accesses ++ more, ?_⟩
    rw [Machine.run_snoc, run, List.foldl_append]
    exact hmore

end Shared

end Sluice.Pool
