import Mathlib.Data.Finset.Card
import Mathlib.Data.List.Induction
import Sluice.Pool.Accesses
import Sluice.Proofs.Waiting

/-!
# Who holds the monitor of a pool, and who is counted

* `Shared.flag`: whether a caller is at such a place. `Tally`: so many are.
* `Shared.Monitored`: the holder of the monitor is at a place where it is held, and nobody else is.
* `Shared.Counted`: the callers that have counted themselves as waiting are those at such places.
* `Shared.Booked`: the slots that are taken are those of the objects that have been made and not removed, and of
  the callers that have one without an object. **Every move keeps the three** (`step_sound`).
* `step_others`: what a caller does leaves the others where they are, or wakes them.
* `stirs`: **nobody is stuck**: if a caller is under way, one of them can make its next access.
-/

namespace Sluice.Pool

variable {α : Type}

/-! ## Counting callers -/

/-- So many callers are so. -/
def Tally (f : CallerId → Bool) (n : Nat) : Prop := ∃ s : Finset CallerId, (∀ c, c ∈ s ↔ f c = true) ∧ s.card = n

section Tally

variable {f g : CallerId → Bool} {n : Nat} {c : CallerId}

theorem tally_none : Tally (fun _ => false) 0 := ⟨∅, by simp, rfl⟩

theorem Tally.congr (h : Tally f n) (hg : ∀ d, g d = f d) : Tally g n := by
  obtain ⟨s, hs, hn⟩ := h
  exact ⟨s, fun d => by rw [hg, hs], hn⟩

theorem Tally.pos (h : Tally f n) (hc : f c = true) : 0 < n := by
  obtain ⟨s, hs, rfl⟩ := h
  exact Finset.card_pos.2 ⟨c, (hs c).2 hc⟩

theorem Tally.eq_zero (h : Tally f n) (hf : ∀ c, f c = false) : n = 0 := by
  obtain ⟨s, hs, rfl⟩ := h
  refine Finset.card_eq_zero.2 (Finset.eq_empty_of_forall_notMem fun c hc => ?_)
  rw [hs, hf] at hc
  cases hc

/-- **One caller changes.** -/
theorem Tally.change (h : Tally f n) (hg : ∀ d, d ≠ c → g d = f d) :
    ∃ k, Tally g k ∧ k + (f c).toNat = n + (g c).toNat := by
  obtain ⟨s, hs, rfl⟩ := h
  have hmem (d : CallerId) (hd : d ≠ c) : d ∈ s ↔ g d = true := by rw [hs, hg d hd]
  cases hc : g c with
  | true =>
    refine ⟨(insert c s).card, ⟨insert c s, fun d => ?_, rfl⟩, ?_⟩
    · by_cases hd : d = c
      · simp [hd, hc]
      · simp [hd, hmem d hd]
    · cases hf : f c with
      | true => simp [Finset.insert_eq_of_mem ((hs c).2 hf)]
      | false =>
        have hn : c ∉ s := fun hm => by simp [(hs c).1 hm] at hf
        simp [Finset.card_insert_of_notMem hn]
  | false =>
    refine ⟨(s.erase c).card, ⟨s.erase c, fun d => ?_, rfl⟩, ?_⟩
    · by_cases hd : d = c
      · simp [hd, hc]
      · simp [hd, hmem d hd]
    · cases hf : f c with
      | true => simpa using Finset.card_erase_add_one ((hs c).2 hf)
      | false =>
        have hn : c ∉ s := fun hm => by simp [(hs c).1 hm] at hf
        simp [Finset.erase_eq_of_notMem hn]

end Tally

/-! ## Places -/

namespace Place

/-- The monitor is held. -/
def holds : Place α → Bool
  | counting _ | retaking _ | rereading _ | comparing _ _ | resigning _ | uncounting _ _ | unlocking _ _
  | waking _ | leaving _ => true
  | _ => false

/-- The caller has counted itself among those who wait. -/
def counts : Place α → Bool
  | retaking _ | rereading _ | comparing _ _ | resigning _ | asleep _ | relocking _ | uncounting _ _ => true
  | _ => false

/-- The caller is not under way: it has returned, or waits, or the factory is at work for it. -/
def rests : Place α → Bool
  | asleep _ | creating | destroying _ _ | returned _ => true
  | _ => false

end Place

/-- A slot is about to be given back for which an object has been counted as removed, or none was made. -/
def Next.owes : Next α → Bool
  | done _ | clear => true
  | destroy _ => false

namespace Place

/-- The caller has a slot for which there is no object yet, or no longer. -/
def owes : Place α → Bool
  | creating | destroying _ .release | destroying _ .stop => true
  | freeing next => next.owes
  | _ => false

/-- The caller has given back the slot of an object that has not been counted as removed. -/
def ahead : Place α → Bool
  | weighing _ next | alerting next | calling next | waking next | leaving next => !next.owes
  | removing _ .discard => true
  | _ => false

end Place

/-- What is said here of one place is said of the other. -/
structure Place.Like (q p : Place α) : Prop where
  holds : q.holds = p.holds
  counts : q.counts = p.counts
  owes : q.owes = p.owes
  ahead : q.ahead = p.ahead

@[simp] theorem Next.place_holds (next : Next α) : next.place.holds = false := by cases next <;> rfl

@[simp] theorem Next.place_counts (next : Next α) : next.place.counts = false := by cases next <;> rfl

@[simp] theorem Next.place_owes (next : Next α) : next.place.owes = false := by cases next <;> rfl

@[simp] theorem Next.place_ahead (next : Next α) : next.place.ahead = !next.owes := by cases next <;> rfl

namespace Shared

variable {m v : Shared α} {c d : CallerId} {p q : Place α} {f : Place α → Bool} {move : Move α}
  {moves : List (Move α)}

@[simp] theorem put_self (m : Shared α) (c : CallerId) (p : Place α) : (m.put c p).callers c = some p :=
  Table.set_self _ _ _

theorem put_of_ne (h : d ≠ c) : (m.put c p).callers d = m.callers d := Table.set_of_ne _ _ h

theorem run_snoc (m : Shared α) (moves : List (Move α)) (move : Move α) :
    m.run (moves ++ [move]) = (m.run moves).step move := List.foldl_append

/-- Whether a caller is at such a place. -/
def flag (f : Place α → Bool) (m : Shared α) (c : CallerId) : Bool := (m.callers c).any f

theorem flag_of (h : m.callers c = some p) : m.flag f c = f p := by
  unfold flag
  rw [h]
  rfl

theorem flag_eq_true : m.flag f c = true ↔ ∃ p, m.callers c = some p ∧ f p = true := by
  unfold flag
  exact Option.any_eq_true _ _

@[simp] theorem flag_put_self (m : Shared α) (c : CallerId) (p : Place α) : (m.put c p).flag f c = f p :=
  flag_of (put_self m c p)

theorem flag_put_of_ne (h : d ≠ c) : (m.put c p).flag f d = m.flag f d := by
  unfold flag
  rw [put_of_ne h]

/-- Waking nobody but those who sleep does not show where it makes no difference whether one sleeps. -/
theorem flag_rouseAll (hf : ∀ deadline, f (.relocking deadline) = f (.asleep deadline)) (m : Shared α)
    (c : CallerId) : m.rouseAll.flag f c = m.flag f c := by
  have hr : m.rouseAll.callers c = (m.callers c).map rouse := rfl
  unfold flag
  rw [hr]
  cases m.callers c with
  | none => rfl
  | some p =>
    cases p with
    | asleep deadline => exact hf deadline
    | _ => rfl

/-- So many callers are at such a place, and then one goes elsewhere. -/
theorem tally_put {n : Nat} (h : Tally (m.flag f) n) (hv : v.callers = m.callers) (c : CallerId) (p : Place α) :
    ∃ k, Tally ((v.put c p).flag f) k ∧ k + (m.flag f c).toNat = n + (f p).toNat := by
  have hflag (d : CallerId) : v.flag f d = m.flag f d := by
    unfold flag
    rw [hv]
  obtain ⟨k, hk, he⟩ := h.change (g := (v.put c p).flag f) (c := c) fun d hd => by
    rw [flag_put_of_ne hd, hflag]
  rw [flag_put_self] at he
  exact ⟨k, hk, he⟩

/-! ## The monitor -/

/-- The holder of the monitor is at a place where it is held, and nobody else is. -/
def Monitored (m : Shared α) : Prop := ∀ c, m.monitor = some c ↔ m.flag Place.holds c = true

theorem Monitored.congr (h : m.Monitored) (hc : v.callers = m.callers) (hm : v.monitor = m.monitor) :
    v.Monitored := by
  intro c
  unfold flag
  rw [hm, hc]
  exact h c

theorem Monitored.put (h : m.Monitored) (hp : p.holds = m.flag Place.holds c) : (m.put c p).Monitored := by
  intro d
  by_cases hd : d = c
  · subst hd
    rw [flag_put_self, hp]
    exact h d
  · rw [flag_put_of_ne hd]
    exact h d

theorem Monitored.lock (h : m.Monitored) (hp : p.holds = true) : (m.lock c p).Monitored := by
  unfold Shared.lock
  split
  · rename_i hn
    intro d
    by_cases hd : d = c
    · subst hd
      simp [Shared.put, flag, hp]
    · have hfree : m.flag Place.holds d = false := by
        rw [← Bool.not_eq_true, ← h d, hn]
        exact nofun
      have hflag : ({ m with monitor := some c }.put c p).flag Place.holds d = false := by
        rw [flag_put_of_ne hd]
        exact hfree
      rw [hflag]
      exact iff_of_false (fun he => hd (Option.some.inj he).symm) nofun
  · exact h

/-- There is one holder. -/
theorem Monitored.alone (h : m.Monitored) (hc : m.flag Place.holds c = true) (hd : d ≠ c) :
    m.flag Place.holds d = false := by
  rw [← Bool.not_eq_true, ← h d, (h c).2 hc]
  exact fun he => hd (Option.some.inj he).symm

theorem Monitored.unlock (h : m.Monitored) (hc : m.flag Place.holds c = true) (hp : p.holds = false) :
    (m.unlock c p).Monitored := by
  intro d
  by_cases hd : d = c
  · subst hd
    have hflag : (m.unlock d p).flag Place.holds d = false := (flag_put_self _ _ _).trans hp
    rw [hflag]
    exact iff_of_false nofun nofun
  · have hflag : (m.unlock c p).flag Place.holds d = false := (flag_put_of_ne hd).trans (h.alone hc hd)
    rw [hflag]
    exact iff_of_false nofun nofun

theorem Monitored.rouseAll (h : m.Monitored) : m.rouseAll.Monitored := by
  intro d
  rw [flag_rouseAll (fun _ => rfl)]
  exact h d

theorem Monitored.go (h : m.Monitored) (hp : m.callers c = some p) : (m.go c p).Monitored := by
  have hflag : m.flag Place.holds c = p.holds := flag_of hp
  cases p with
  | locking _ | relocking _ | calling _ => exact h.lock rfl
  | unlocking r _ => exact h.unlock hflag (by cases r <;> rfl)
  | leaving next => exact h.unlock hflag next.place_holds
  | waking next =>
    have hr : m.rouseAll.flag Place.holds c = true := (flag_rouseAll (fun _ => rfl) m c).trans hflag
    exact h.rouseAll.put hr.symm
  | resigning deadline =>
    simp only [Shared.go]
    split
    · exact h.unlock hflag rfl
    · split
      · exact h.put hflag.symm
      · exact h.unlock hflag rfl
  | _ =>
    simp only [Shared.go]
    repeat' split
    all_goals
      first
      | exact h
      | exact h.put hflag.symm
      | exact h.put (by rw [hflag, Next.place_holds]; rfl)

theorem flag_of_free (h : m.isFree c = true) (hf : ∀ r, f (.returned r) = false) : m.flag f c = false := by
  unfold isFree at h
  unfold flag
  split at h
  · rename_i hc
    rw [hc]
    rfl
  · rename_i r hc
    rw [hc]
    exact hf r
  · cases h

/-! ## Those who wait -/

/-- The callers that have counted themselves are those at such places. -/
def Counted (m : Shared α) : Prop := Tally (m.flag Place.counts) m.waiters

theorem Counted.put (h : m.Counted) (hv : v.callers = m.callers)
    (hp : v.waiters + (m.flag Place.counts c).toNat = m.waiters + p.counts.toNat) : (v.put c p).Counted := by
  obtain ⟨k, hk, he⟩ := tally_put h hv c p
  obtain rfl : k = v.waiters := by omega
  exact hk

/-- A caller goes on and is counted as before. -/
theorem Counted.stay (h : m.Counted) (hv : v.callers = m.callers) (hw : v.waiters = m.waiters)
    (hp : p.counts = m.flag Place.counts c) : (v.put c p).Counted := h.put hv (by rw [hw, hp])

theorem Counted.rouseAll (h : m.Counted) : m.rouseAll.Counted := Tally.congr h (flag_rouseAll (fun _ => rfl) m)

theorem Counted.lock (h : m.Counted) (hp : p.counts = m.flag Place.counts c) : (m.lock c p).Counted := by
  unfold Shared.lock
  split
  · exact h.stay rfl rfl hp
  · exact h

theorem Counted.go (h : m.Counted) (hp : m.callers c = some p) : (m.go c p).Counted := by
  have hflag : m.flag Place.counts c = p.counts := flag_of hp
  cases p with
  | locking _ | relocking _ | calling _ => exact h.lock hflag.symm
  | counting deadline => exact h.put rfl (by rw [hflag]; rfl)
  | uncounting r deadline =>
    have hpos : 0 < m.waiters := Tally.pos h hflag
    refine h.put rfl ?_
    rw [hflag]
    show m.waiters - 1 + 1 = m.waiters
    omega
  | unlocking r _ => exact h.stay rfl rfl (by rw [hflag]; cases r <;> rfl)
  | leaving next => exact h.stay rfl rfl (by rw [hflag, Next.place_counts]; rfl)
  | waking next =>
    have hr : m.rouseAll.flag Place.counts c = false := (flag_rouseAll (fun _ => rfl) m c).trans hflag
    exact h.rouseAll.stay rfl rfl hr.symm
  | _ =>
    simp only [Shared.go]
    repeat' split
    all_goals
      first
      | exact h
      | exact h.stay rfl rfl hflag.symm
      | exact h.stay rfl rfl (by rw [hflag, Next.place_counts]; rfl)

/-! ## Slots -/

/-- How often a slot was given back that nobody had. -/
def underflows (m : Shared α) : Nat := m.journal.countP fun
  | .underflow => true
  | _ => false

/-- How many slots are taken beyond those of the objects that have been made and not removed. -/
def surplus (m : Shared α) : Int :=
  m.pool.instances + m.pool.removeCount - m.pool.createCount - m.underflows

/-- The surplus is what the callers have that have a slot without an object, less the objects whose slots have
been given back and which have not been removed yet. -/
def Booked (m : Shared α) : Prop :=
  ∃ owing ahead, Tally (m.flag Place.owes) owing ∧ Tally (m.flag Place.ahead) ahead ∧
    m.surplus + ahead = owing

/-- A caller goes on, and changes the surplus by what it owes. -/
theorem Booked.put (h : m.Booked) (hv : v.callers = m.callers)
    (hp : v.surplus + p.ahead.toNat + (m.flag Place.owes c).toNat =
      m.surplus + (m.flag Place.ahead c).toNat + p.owes.toNat) : (v.put c p).Booked := by
  obtain ⟨owing, ahead, howing, hahead, he⟩ := h
  obtain ⟨owing', howing', ho⟩ := tally_put howing hv c p
  obtain ⟨ahead', hahead', ha⟩ := tally_put hahead hv c p
  refine ⟨owing', ahead', howing', hahead', ?_⟩
  show v.surplus + ahead' = owing'
  omega

theorem Booked.stay (h : m.Booked) (hv : v.callers = m.callers) (hs : v.surplus = m.surplus)
    (ho : p.owes = m.flag Place.owes c) (ha : p.ahead = m.flag Place.ahead c) : (v.put c p).Booked :=
  h.put hv (by rw [hs, ho, ha])

theorem Booked.rouseAll (h : m.Booked) : m.rouseAll.Booked := by
  obtain ⟨owing, ahead, howing, hahead, he⟩ := h
  exact ⟨owing, ahead, howing.congr (flag_rouseAll (fun _ => rfl) m), hahead.congr (flag_rouseAll (fun _ => rfl) m),
    he⟩

theorem Booked.lock (h : m.Booked) (ho : p.owes = m.flag Place.owes c) (ha : p.ahead = m.flag Place.ahead c) :
    (m.lock c p).Booked := by
  unfold Shared.lock
  split
  · exact h.stay rfl rfl ho ha
  · exact h

theorem surplus_underflow (m : Shared α) : (m.note .underflow).surplus = m.surplus - 1 := by
  have hu : (m.note .underflow).underflows = m.underflows + 1 := List.countP_cons_of_pos rfl
  have hpool : (m.note .underflow).pool = m.pool := rfl
  unfold surplus
  rw [hu, hpool]
  omega

theorem surplus_slots (m : Shared α) (n : Nat) :
    { m with pool := { m.pool with instances := n } }.surplus = m.surplus + (n - m.pool.instances) := by
  unfold surplus
  show (n : Int) + m.pool.removeCount - m.pool.createCount - m.underflows = _
  omega

theorem surplus_removed (m : Shared α) (obj : α) :
    ({ m with pool := { m.pool with removeCount := m.pool.removeCount + 1 } }.note (.destroyed obj)).surplus =
      m.surplus + 1 := by
  have hu : ({ m with pool := { m.pool with removeCount := m.pool.removeCount + 1 } }.note
      (.destroyed obj)).underflows = m.underflows := List.countP_cons_of_neg nofun
  unfold surplus
  rw [hu]
  show (m.pool.instances : Int) + (m.pool.removeCount + 1 : Nat) - m.pool.createCount - m.underflows = _
  omega

theorem Booked.go (h : m.Booked) (hp : m.callers c = some p) : (m.go c p).Booked := by
  have howes : m.flag Place.owes c = p.owes := flag_of hp
  have hahead : m.flag Place.ahead c = p.ahead := flag_of hp
  cases p with
  | locking _ | relocking _ | calling _ => exact h.lock howes.symm hahead.symm
  | waking next =>
    have hr := flag_rouseAll (f := Place.owes) (fun _ => rfl) m c
    have ha := flag_rouseAll (f := Place.ahead) (fun _ => rfl) m c
    exact h.rouseAll.stay rfl rfl (hr.trans howes).symm (ha.trans hahead).symm
  | unlocking r _ => exact h.stay rfl rfl (by rw [howes]; cases r <;> rfl) (by rw [hahead]; cases r <;> rfl)
  | raising cap deadline =>
    simp only [Shared.go]
    split
    · -- a slot is taken, and there is no object for it yet
      refine h.put rfl ?_
      rw [surplus_slots, howes, hahead]
      show m.surplus + ((m.pool.instances + 1 : Nat) - m.pool.instances) + 0 + 0 = m.surplus + 0 + 1
      omega
    · exact h.stay rfl rfl howes.symm hahead.symm
  | freeing next =>
    simp only [Shared.go]
    split
    · refine h.put rfl ?_
      rw [surplus_underflow, howes, hahead, Next.place_owes, Next.place_ahead]
      cases next <;> simp [Place.owes, Place.ahead, Next.owes]
    · rename_i hn
      refine h.put rfl ?_
      rw [surplus_slots, howes, hahead]
      cases next <;> simp [Place.owes, Place.ahead, Next.owes] <;> omega
  | removing obj errand =>
    refine h.put rfl ?_
    rw [surplus_removed, howes, hahead]
    cases errand <;> simp [Place.owes, Place.ahead]
  | _ =>
    simp only [Shared.go]
    repeat' split
    all_goals
      first
      | exact h
      | exact h.stay rfl rfl howes.symm hahead.symm
      | exact h.stay rfl rfl (by rw [howes, Next.place_owes]; rfl) (by rw [hahead, Next.place_ahead]; rfl)

/-! ## Moves -/

/-- What holds between any two accesses. -/
structure Sound (m : Shared α) : Prop where
  monitored : m.Monitored
  counted : m.Counted
  booked : m.Booked

theorem sound_ofConfig (config : PoolConfig) : (ofConfig config : Shared α).Sound :=
  ⟨fun _ => iff_of_false nofun nofun, tally_none, 0, 0, tally_none, tally_none, rfl⟩

/-- A caller goes on without the monitor, and is counted as before. -/
theorem Sound.onward (h : m.Sound) (hc : v.callers = m.callers) (hm : v.monitor = m.monitor)
    (hw : v.waiters = m.waiters) (hholds : p.holds = m.flag Place.holds c)
    (hcounts : p.counts = m.flag Place.counts c) (hb : (v.put c p).Booked) : (v.put c p).Sound := by
  refine ⟨Monitored.put (h.monitored.congr hc hm) ?_, h.counted.stay hc hw hcounts, hb⟩
  unfold flag
  rw [hc]
  exact hholds

theorem Sound.like (h : m.Sound) (hp : m.callers c = some p) (hq : q.Like p) : (m.put c q).Sound :=
  h.onward rfl rfl rfl (by rw [flag_of hp, hq.holds]) (by rw [flag_of hp, hq.counts])
    (h.booked.stay rfl rfl (by rw [flag_of hp, hq.owes]) (by rw [flag_of hp, hq.ahead]))

theorem Sound.go (h : m.Sound) (hp : m.callers c = some p) : (m.go c p).Sound :=
  ⟨h.monitored.go hp, h.counted.go hp, h.booked.go hp⟩

theorem Sound.access (h : m.Sound) (c : CallerId) : (m.access c).Sound := by
  unfold Shared.access
  split
  · exact h.go ‹_›
  · exact h

/-- The factory leaves the monitor and those who wait alone. -/
theorem Sound.worked (h : m.Sound) (c : CallerId) (w : Machine.Work α) : (m.worked c w).Sound := by
  unfold Shared.worked
  split
  · -- an object has been made for the slot
    rename_i obj hp
    have hs : ({ m with pool := { m.pool with createCount := m.pool.createCount + 1 } }.note
        (.created obj)).surplus = m.surplus - 1 := by
      have hu : ({ m with pool := { m.pool with createCount := m.pool.createCount + 1 } }.note
          (.created obj)).underflows = m.underflows := List.countP_cons_of_neg nofun
      unfold surplus
      rw [hu]
      show (m.pool.instances : Int) + m.pool.removeCount - (m.pool.createCount + 1 : Nat) - m.underflows = _
      omega
    refine h.onward rfl rfl rfl (by rw [flag_of hp]; rfl) (by rw [flag_of hp]; rfl) (h.booked.put rfl ?_)
    rw [hs, flag_of hp, flag_of hp]
    show m.surplus - 1 + 0 + 1 = m.surplus + 0 + 0
    omega
  · rename_i f hp
    have hs : (m.note (.createFailed f)).surplus = m.surplus := by
      have hu : (m.note (.createFailed f)).underflows = m.underflows := List.countP_cons_of_neg nofun
      unfold surplus
      rw [hu]
      rfl
    exact h.onward rfl rfl rfl (by rw [flag_of hp]; rfl) (by rw [flag_of hp]; rfl)
      (h.booked.stay rfl hs (by rw [flag_of hp]; rfl) (by rw [flag_of hp]; rfl))
  · rename_i hp
    exact h.like hp ⟨rfl, rfl, rfl, rfl⟩
  · rename_i hp
    exact h.like hp ⟨rfl, rfl, rfl, rfl⟩
  · rename_i hp
    exact h.like hp ⟨rfl, rfl, rfl, rfl⟩
  · rename_i hp
    exact h.like hp ⟨rfl, rfl, rfl, rfl⟩
  · rename_i hp
    exact h.like hp ⟨rfl, rfl, rfl, rfl⟩
  · rename_i errand payload hne hp
    cases errand with
    | discard => exact absurd rfl hne
    | release | stop => exact h.like hp ⟨rfl, rfl, rfl, rfl⟩
  · exact h

/-- **Every move keeps who holds the monitor, who is counted, and what the slots are for.** -/
theorem step_sound (h : m.Sound) (move : Move α) : (m.step move).Sound := by
  cases move with
  | call c k =>
    simp only [step]
    split
    · rename_i hf
      refine h.onward rfl rfl rfl ?_ ?_ (h.booked.stay rfl rfl ?_ ?_) <;> rw [flag_of_free hf fun _ => rfl] <;>
        cases k <;> rfl
    · exact h
  | access c => exact h.access c
  | rouse c =>
    simp only [step]
    split
    · rename_i hp
      exact h.like hp ⟨rfl, rfl, rfl, rfl⟩
    · exact h
  | worked c w => exact h.worked c w
  | tick millis => exact ⟨h.monitored, h.counted, h.booked⟩

theorem run_sound (h : m.Sound) (moves : List (Move α)) : (m.run moves).Sound := by
  induction moves using List.reverseRecOn with
  | nil => exact h
  | append_singleton moves move ih =>
    rw [run_snoc]
    exact step_sound ih move

/-! ## Others -/

/-- The caller that a move is about. -/
def Move.caller? : Move α → Option CallerId
  | .call c _ | .access c | .rouse c | .worked c _ => some c
  | .tick _ => none

/-- What a caller does leaves the others where they are, or wakes them. -/
theorem go_others (m : Shared α) (hd : d ≠ c) (p : Place α) :
    (m.go c p).callers d = m.callers d ∨ (m.go c p).callers d = (m.callers d).map rouse := by
  have hput (v : Shared α) (q : Place α) : (v.put c q).callers d = v.callers d := put_of_ne hd
  have hlock (q : Place α) : (m.lock c q).callers d = m.callers d := by
    unfold Shared.lock
    split
    · exact hput _ q
    · rfl
  cases p with
  | waking next => exact .inr (hput _ _)
  | locking _ | relocking _ | calling _ => exact .inl (hlock _)
  | asleep _ | creating | destroying _ _ | returned _ => exact .inl rfl
  | _ =>
    refine .inl ?_
    simp only [Shared.go]
    repeat' split
    all_goals exact hput _ _

/-- **The moves of others leave a caller where it is, or wake it.** -/
theorem step_others (m : Shared α) (hd : move.caller? ≠ some d) :
    (m.step move).callers d = m.callers d ∨ (m.step move).callers d = (m.callers d).map rouse := by
  cases move with
  | call c k =>
    have hne : d ≠ c := fun he => hd (congrArg some he.symm)
    simp only [step]
    split
    · exact .inl (put_of_ne hne)
    · exact .inl rfl
  | access c =>
    have hne : d ≠ c := fun he => hd (congrArg some he.symm)
    simp only [step, Shared.access]
    split
    · exact go_others m hne _
    · exact .inl rfl
  | rouse c =>
    have hne : d ≠ c := fun he => hd (congrArg some he.symm)
    simp only [step]
    split
    · exact .inl (put_of_ne hne)
    · exact .inl rfl
  | worked c w =>
    have hne : d ≠ c := fun he => hd (congrArg some he.symm)
    refine .inl ?_
    simp only [step, Shared.worked]
    split
    all_goals first | rfl | exact put_of_ne hne
  | tick millis => exact .inl rfl

/-- A caller that no move is about makes no call. -/
theorem run_absent (h : m.callers d = none) (hd : ∀ move ∈ moves, move.caller? ≠ some d) :
    (m.run moves).callers d = none := by
  induction moves using List.reverseRecOn with
  | nil => exact h
  | append_singleton moves move ih =>
    have hmoves := ih fun move hm => hd move (List.mem_append_left _ hm)
    rw [run_snoc]
    rcases step_others (m.run moves) (hd move (List.mem_append_right _ (List.mem_singleton.2 rfl))) with he | he
    · exact he.trans hmoves
    · rw [he, hmoves]
      rfl

/-! ## Rest -/

/-- No caller is under way: each has returned, or waits, or the factory is at work for it. -/
def Quiescent (m : Shared α) : Prop := ∀ c p, m.callers c = some p → p.rests = true

/-- A caller whose next access does not have to wait for the monitor makes it. -/
theorem go_stirs (hr : p.rests = false) (hm : m.monitor = none ∨ p.holds = true) :
    (m.go c p).callers c ≠ some p := by
  have hput (v : Shared α) {q : Place α} (hq : q ≠ p) : (v.put c q).callers c ≠ some p := by
    rw [put_self]
    exact fun he => hq (Option.some.inj he)
  have hlock {q : Place α} (hh : p.holds = false) (hq : q ≠ p) : (m.lock c q).callers c ≠ some p := by
    unfold Shared.lock
    rw [if_pos (hm.resolve_right (by simp [hh]))]
    exact hput _ hq
  cases p with
  | asleep _ | creating | destroying _ _ | returned _ => cases hr
  | locking _ | relocking _ | calling _ => exact hlock rfl nofun
  | unlocking r _ => exact hput _ (by cases r <;> exact nofun)
  | freeing next | weighing _ next | alerting next | leaving next =>
    simp only [Shared.go]
    repeat' split
    all_goals exact hput _ (by cases next <;> exact nofun)
  | _ =>
    simp only [Shared.go]
    repeat' split
    all_goals exact hput _ nofun

/-- **Nobody is stuck.** If a caller is under way, one of them makes an access. -/
theorem stirs (h : m.Monitored) (hq : ¬ m.Quiescent) : ∃ c, m.step (.access c) ≠ m := by
  have hgo (c : CallerId) (p : Place α) (hp : m.callers c = some p) (hr : p.rests = false)
      (hm : m.monitor = none ∨ p.holds = true) : ∃ c, m.step (.access c) ≠ m := by
    have hs : m.step (.access c) = m.go c p := by simp only [step, Shared.access, hp]
    have hmoves : (m.go c p).callers c ≠ some p := go_stirs hr hm
    exact ⟨c, fun he => hmoves (by rw [← hs, he, hp])⟩
  obtain ⟨c, hc⟩ := not_forall.1 hq
  obtain ⟨p, hp⟩ := not_forall.1 hc
  obtain ⟨hp, hr⟩ := Classical.not_imp.1 hp
  cases hm : m.monitor with
  | none => exact hgo c p hp (Bool.not_eq_true _ ▸ hr) (.inl hm)
  | some d =>
    -- whoever holds the monitor has something to do with it
    obtain ⟨q, hq, hholds⟩ := flag_eq_true.1 ((h d).1 hm)
    have hr : q.rests = false := by cases q <;> first | rfl | cases hholds
    exact hgo d q hq hr (.inr hholds)

end Shared

end Sluice.Pool
