import Sluice.Proofs.Capacity

/-!
# How long a caller waits

A wait is given as a span of time, and kept as a number of milliseconds. There, 0 stands for a wait without end.

* `PoolConfig.timeout_withTimeout`: **what becomes of a span**. It is cut to whole milliseconds, and none of them
  are left of a span below one.
* `Machine.Asks`: a caller has asked for an object, has none yet, and gives up at a given time.
* `Machine.Due`: its time is over.
* `step_asks`, `run_asks`: while nothing is to be had it goes on to ask, or has given up, and not too early.
  `asks_expires`: once its time has come, it gives up as soon as it has looked.
* `patience_exact`: a caller of a pool gives up after the span that was configured, if this is a millisecond or
  more. With a shorter one it waits for ever.
-/

namespace Sluice

namespace Span

theorem toMillis_eq (d : Span) : d.toMillis = d.toNanos / 1_000_000 := by
  unfold toMillis toNanos
  omega

theorem toMillis_ofMillis {n : Nat} (h : n < wordBound) : (ofMillis n h).toMillis = n := by
  unfold toMillis ofMillis
  simp only
  omega

theorem toNanos_ofMillis {n : Nat} (h : n < wordBound) : (ofMillis n h).toNanos = n * 1_000_000 := by
  unfold toNanos ofMillis
  simp only
  omega

end Span

namespace PoolConfig

variable {config : PoolConfig} {d t : Span}

theorem withTimeout_lt (config : PoolConfig) (d : Span) :
    (config.withTimeout d).timeoutMillis < wordBound := by
  have hw : 0 < wordBound := by decide
  unfold withTimeout
  simp only
  omega

theorem timeout_eq_some :
    (config.withTimeout d).timeout = some t ↔
      0 < (config.withTimeout d).timeoutMillis ∧
        t = Span.ofMillis (config.withTimeout d).timeoutMillis (withTimeout_lt config d) := by
  unfold timeout
  by_cases h : 0 < (config.withTimeout d).timeoutMillis
  · rw [dif_pos ⟨h, withTimeout_lt config d⟩]
    exact ⟨fun ht => ⟨h, (Option.some.inj ht).symm⟩, fun ht => congrArg some ht.2.symm⟩
  · rw [dif_neg fun hn => h hn.1]
    exact ⟨nofun, fun ht => absurd ht.1 h⟩

/-- **What becomes of a span.** It is cut to whole milliseconds, and to the greatest number of 64 bits. If none
are left, the wait has no end. -/
theorem timeout_withTimeout (config : PoolConfig) (d : Span) :
    (1_000_000 ≤ d.toNanos → ∃ t, (config.withTimeout d).timeout = some t ∧
        t.toMillis = min d.toMillis (wordBound - 1) ∧ 0 < t.toNanos ∧ t.toNanos ≤ d.toNanos) ∧
      (d.toNanos < 1_000_000 → (config.withTimeout d).timeout = none) := by
  have hmillis := d.toMillis_eq
  have hw : 1 < wordBound := by decide
  have hkept : (config.withTimeout d).timeoutMillis = min d.toMillis (wordBound - 1) := rfl
  constructor
  · intro hd
    refine ⟨_, timeout_eq_some.2 ⟨by omega, rfl⟩, ?_, ?_, ?_⟩
    · rw [Span.toMillis_ofMillis, hkept]
    · rw [Span.toNanos_ofMillis]
      omega
    · rw [Span.toNanos_ofMillis]
      omega
  · intro hd
    rw [Option.eq_none_iff_forall_ne_some]
    intro t ht
    have hpos := (timeout_eq_some.1 ht).1
    omega

/-- A longer span is no shorter wait, from a millisecond on. -/
theorem timeout_mono {d' t' : Span} (hd : 1_000_000 ≤ d.toNanos) (hle : d.toNanos ≤ d'.toNanos)
    (ht' : (config.withTimeout d').timeout = some t') :
    ∃ t, (config.withTimeout d).timeout = some t ∧ t.toNanos ≤ t'.toNanos := by
  obtain ⟨t, ht, hmillis, -, -⟩ := (timeout_withTimeout config d).1 hd
  obtain ⟨u, hu, hmillis', -, -⟩ := (timeout_withTimeout config d').1 (hd.trans hle)
  obtain rfl : u = t' := Option.some.inj (hu.symm.trans ht')
  refine ⟨t, ht, ?_⟩
  have h1 := d.toMillis_eq
  have h2 := d'.toMillis_eq
  obtain ⟨-, rfl⟩ := timeout_eq_some.1 ht
  obtain ⟨-, rfl⟩ := timeout_eq_some.1 hu
  rw [Span.toMillis_ofMillis] at hmillis hmillis'
  rw [Span.toNanos_ofMillis, Span.toNanos_ofMillis, hmillis, hmillis']
  have hquot : d.toMillis ≤ d'.toMillis := by omega
  omega

end PoolConfig

namespace Pool.Machine

variable {α : Type} {m m' m'' : Machine α} {move : Move α} {c c' : CallerId} {p : Phase α}
  {d : Option Nat}

/-! ## The clock -/

/-- The time that callers are given is the same, and the clock has not gone back. -/
structure Elapses (m m' : Machine α) : Prop where
  timeout : m'.pool.timeoutMillis = m.pool.timeoutMillis
  clock : m.clock ≤ m'.clock

theorem Elapses.trans (h : m.Elapses m') (h' : m'.Elapses m'') : m.Elapses m'' :=
  ⟨h'.timeout.trans h.timeout, Nat.le_trans h.clock h'.clock⟩

theorem elapses_freeSlot (m : Machine α) : m.Elapses m.freeSlot := by
  unfold freeSlot
  simp only
  repeat' split
  all_goals exact ⟨rfl, Nat.le_refl _⟩

theorem Elapses.put (h : m.Elapses m') (c : CallerId) (p : Phase α) : m.Elapses (m'.put c p) :=
  h.trans ⟨rfl, Nat.le_refl _⟩

theorem elapses_clear (m : Machine α) (c : CallerId) : m.Elapses (m.clear c) := by
  unfold clear
  split <;> exact ⟨rfl, Nat.le_refl _⟩

theorem elapses_call (m : Machine α) (c : CallerId) (k : Call α) : m.Elapses (m.call c k) := by
  cases k with
  | get => exact ⟨rfl, Nat.le_refl _⟩
  | release obj =>
    simp only [call, release]
    repeat' split
    all_goals exact ⟨rfl, Nat.le_refl _⟩
  | discard obj => exact (elapses_freeSlot m).trans ⟨rfl, Nat.le_refl _⟩
  | stop => exact elapses_clear m c
  | setMaxSize n =>
    simp only [call, setMaxSize]
    split <;> exact ⟨rfl, Nat.le_refl _⟩

theorem elapses_resume (m : Machine α) (c : CallerId) : m.Elapses (m.resume c) := by
  unfold resume attempt look
  repeat' split
  all_goals exact ⟨rfl, Nat.le_refl _⟩

theorem elapses_worked (m : Machine α) (c : CallerId) (w : Work α) : m.Elapses (m.worked c w) := by
  unfold worked
  split
  · exact ⟨rfl, Nat.le_refl _⟩
  · have hnote : m.Elapses (m.note (.createFailed ‹_›)) := ⟨rfl, Nat.le_refl _⟩
    exact (hnote.trans (elapses_freeSlot _)).put c _
  · exact (elapses_freeSlot m).put c _
  · exact (elapses_freeSlot m).put c _
  · exact ⟨rfl, Nat.le_refl _⟩
  · exact (elapses_freeSlot m).trans (elapses_clear _ c)
  · exact ⟨rfl, Nat.le_refl _⟩
  · exact (elapses_freeSlot m).put c _
  · exact ⟨rfl, Nat.le_refl _⟩

theorem step_elapses (m : Machine α) (move : Move α) : m.Elapses (m.step move) := by
  cases move with
  | call c k =>
    simp only [step]
    split
    · exact elapses_call m c k
    · exact ⟨rfl, Nat.le_refl _⟩
  | resume c => exact elapses_resume m c
  | worked c w => exact elapses_worked m c w
  | tick millis => exact ⟨rfl, Nat.le_add_right _ _⟩

theorem run_elapses (m : Machine α) (moves : List (Move α)) : m.Elapses (m.run moves) := by
  induction moves using List.reverseRecOn with
  | nil => exact ⟨rfl, Nat.le_refl _⟩
  | append_singleton moves move ih =>
    rw [run_snoc]
    exact ih.trans (step_elapses _ move)

/-! ## Asking -/

/-- A caller has asked for an object, has none yet, and gives up at the deadline. -/
def Asks (m : Machine α) (c : CallerId) (d : Option Nat) : Prop :=
  m.callers c = some (.trying d) ∨ m.Awaits c d

theorem Stays.asks (hs : m.Stays m' c) (h : m.Asks c d) : m'.Asks c d := by
  rcases h with h | h
  · exact .inl (hs.eq_of_wake h rfl)
  · exact .inr (hs.awaits h)

theorem Asks.isFree (h : m.Asks c d) : m.isFree c = false := by
  unfold Machine.isFree
  rcases h with h | h | h <;> rw [h]

theorem attempt_of_atCeiling (ha : m.pool.AtCeiling) (c : CallerId) (d : Option Nat) :
    m.attempt c d = m.put c (.looking d) := by
  have hr := (atCeiling_iff.1 ha).2
  unfold attempt
  simp only [ha.idle, hr, Bool.false_eq_true, if_false]

/-- The time of a caller is over. -/
def Due (m : Machine α) (d : Option Nat) : Prop := ∃ t, d = some t ∧ t ≤ m.clock

theorem due_deadline :
    m'.Due m.deadline ↔ 0 < m.pool.timeoutMillis ∧ m.clock + m.pool.timeoutMillis ≤ m'.clock := by
  unfold Due deadline
  by_cases h : 0 < m.pool.timeoutMillis
  · simp [h]
  · simp [h]

/-- A caller that finds nothing waits, unless its time is over. -/
theorem look_of_not_due (ha : m.pool.AtCeiling) (hd : ¬ m.Due d) (c : CallerId) :
    m.look c d = m.put c (.blocked d) := by
  have hr := (atCeiling_iff.1 ha).2
  unfold look
  simp only [ha.idle, hr, Bool.false_eq_true, if_false]
  cases d with
  | none => rfl
  | some t => exact if_neg fun ht => hd ⟨t, rfl, ht⟩

theorem look_of_due (ha : m.pool.AtCeiling) (hd : m.Due d) (c : CallerId) :
    m.look c d = m.put c (.returned (.exhausted m.pool.timeoutMillis)) := by
  obtain ⟨t, rfl, ht⟩ := hd
  have hr := (atCeiling_iff.1 ha).2
  unfold look
  simp only [ha.idle, hr, Bool.false_eq_true, if_false, if_pos ht]

/-- A caller has given up, and its time was over. -/
structure GaveUp (m : Machine α) (c : CallerId) (d : Option Nat) : Prop where
  due : m.Due d
  returned : m.callers c = some (.returned (.exhausted m.pool.timeoutMillis))

/-- A caller without a call does not go on. -/
theorem step_resume_of_returned {r : Result α} (h : m.callers c = some (.returned r)) :
    m.step (.resume c) = m := by
  simp only [step, resume, h]

theorem GaveUp.step (h : m.GaveUp c d) (hc : ∀ k, move ≠ .call c k) : (m.step move).GaveUp c d := by
  obtain ⟨t, rfl, ht⟩ := h.due
  have hel := step_elapses m move
  refine ⟨⟨t, rfl, ht.trans hel.clock⟩, ?_⟩
  rw [hel.timeout]
  by_cases hm : move.caller? = some c
  · cases move with
    | call c' k =>
      obtain rfl : c' = c := Option.some.inj hm
      exact absurd rfl (hc k)
    | resume c' =>
      obtain rfl : c' = c := Option.some.inj hm
      rw [step_resume_of_returned h.returned]
      exact h.returned
    | worked c' w =>
      obtain rfl : c' = c := Option.some.inj hm
      simp only [Machine.step, worked, h.returned]
    | tick millis => exact h.returned
  · exact (step_stays m hm).eq_of_wake h.returned rfl

/-- **While nothing is to be had a caller goes on to ask**, or gives up once its time is over. -/
theorem step_asks (h : m.Asks c d) (ha : m.pool.AtCeiling) (move : Move α) :
    (m.step move).Asks c d ∨ (m.step move).GaveUp c d := by
  by_cases hm : move.caller? = some c
  · cases move with
    | call c' k =>
      obtain rfl : c' = c := Option.some.inj hm
      have hs : m.step (.call c' k) = m := if_neg (by simp [h.isFree])
      rw [hs]
      exact .inl h
    | resume c' =>
      obtain rfl : c' = c := Option.some.inj hm
      simp only [step, resume]
      rcases h with h | h | h <;> rw [h] <;> simp only
      · rw [attempt_of_atCeiling ha]
        exact .inl (.inr (.inr (put_self _ _ _)))
      · exact .inl (.inr (.inr (put_self _ _ _)))
      · by_cases hd : m.Due d
        · rw [look_of_due ha hd]
          exact .inr ⟨hd, put_self _ _ _⟩
        · rw [look_of_not_due ha hd]
          exact .inl (.inr (.inl (put_self _ _ _)))
    | worked c' w =>
      -- the factory is not at work for it
      obtain rfl : c' = c := Option.some.inj hm
      have hs : m.step (.worked c' w) = m := by
        simp only [step, worked]
        rcases h with h | h | h <;> rw [h]
      rw [hs]
      exact .inl h
    | tick millis => exact .inl h
  · exact .inl ((step_stays m hm).asks h)

theorem run_asks (h : m.Asks c d) (moves : List (Move α))
    (ha : ∀ pre, pre <+: moves → (m.run pre).pool.AtCeiling) (hc : ∀ k, .call c k ∉ moves) :
    (m.run moves).Asks c d ∨ (m.run moves).GaveUp c d := by
  induction moves using List.reverseRecOn with
  | nil => exact .inl h
  | append_singleton moves move ih =>
    have hpre : moves <+: moves ++ [move] := List.prefix_append _ _
    have hcall : ∀ k, move ≠ .call c k := fun k hk => hc k (by simp [hk])
    rw [run_snoc]
    rcases ih (fun pre hp => ha pre (hp.trans hpre)) (fun k hk => hc k (List.mem_append_left _ hk)) with hr | hr
    · exact step_asks hr (ha moves hpre) move
    · exact .inr (hr.step hcall)

theorem looking_expires (h : m.callers c = some (.looking d)) (ha : m.pool.AtCeiling) (hd : m.Due d) :
    (m.step (.resume c)).callers c = some (.returned (.exhausted m.pool.timeoutMillis)) := by
  simp only [step, resume, h]
  rw [look_of_due ha hd, put_self]

/-- **Once its time has come a caller gives up**, as soon as it has looked. -/
theorem asks_expires (h : m.Asks c d) (ha : m.pool.AtCeiling) (hd : m.Due d) :
    ((m.step (.resume c)).step (.resume c)).callers c = some (.returned (.exhausted m.pool.timeoutMillis)) := by
  have hput : (m.put c (.looking d)).callers c = some (.looking d) := put_self _ _ _
  rcases h with h | h | h
  · have hs : m.step (.resume c) = m.put c (.looking d) := by
      simp only [step, resume, h]
      exact attempt_of_atCeiling ha c _
    rw [hs]
    exact looking_expires hput ha hd
  · have hs : m.step (.resume c) = m.put c (.looking d) := by
      simp only [step, resume, h]
    rw [hs]
    exact looking_expires hput ha hd
  · have hgone := looking_expires h ha hd
    rw [step_resume_of_returned hgone]
    exact hgone

theorem asks_get (hf : m.isFree c = true) : (m.step (.call c .get)).Asks c m.deadline := by
  have hs : m.step (.call c .get) = m.put c (.trying m.deadline) := if_pos hf
  rw [hs]
  exact .inl (put_self _ _ _)

/-- **A caller gives up after the span that was configured**, if this is a millisecond or more.

* Such a span becomes a wait of as many whole milliseconds, as far as 64 bits hold them. A longer span is no
  shorter wait.
* A caller that asks while nothing is to be had, and as long as this remains so, asks until then, and has given
  up when it has looked twice more.
* A shorter span becomes a wait without end. -/
theorem patience_exact (config : PoolConfig) (d : Span) :
    let wait := (config.withTimeout d).timeout
    (1_000_000 ≤ d.toNanos →
        (∃ t, wait = some t ∧ t.toMillis = min d.toMillis (wordBound - 1) ∧ 0 < t.toNanos ∧
          t.toNanos ≤ d.toNanos) ∧
        ∀ d', d.toNanos ≤ d'.toNanos → ∀ t', (config.withTimeout d').timeout = some t' →
          ∃ t, wait = some t ∧ t.toNanos ≤ t'.toNanos) ∧
      (d.toNanos < 1_000_000 → wait = none) ∧
      ∀ (moves more : List (Move α)) (c : CallerId),
        let m : Machine α := run ⟨Pool.ofConfig (config.withTimeout d), .empty, 0, []⟩ moves
        let asked := m.step (.call c .get)
        let m' := asked.run more
        m.isFree c = true → (∀ k, .call c k ∉ more) → (∀ pre, pre <+: more → (asked.run pre).pool.AtCeiling) →
        (∀ t, wait = some t →
          (m'.clock < m.clock + t.toMillis → m'.isFree c = false) ∧
          (m.clock + t.toMillis ≤ m'.clock →
            ((m'.step (.resume c)).step (.resume c)).callers c = some (.returned (.exhausted t.toMillis)))) ∧
        (wait = none → m'.isFree c = false) := by
  intro wait
  obtain ⟨hlong, hshort⟩ := PoolConfig.timeout_withTimeout config d
  refine ⟨fun hd => ⟨hlong hd, fun d' hle t' ht' => PoolConfig.timeout_mono hd hle ht'⟩, hshort, ?_⟩
  intro moves more c m asked m' hf hc ha
  have htimeout : m.pool.timeoutMillis = (config.withTimeout d).timeoutMillis := (run_elapses _ moves).timeout
  have htimeout' : m'.pool.timeoutMillis = (config.withTimeout d).timeoutMillis :=
    ((step_elapses m _).trans (run_elapses asked more)).timeout.trans htimeout
  have hasks : m'.Asks c m.deadline ∨ m'.GaveUp c m.deadline := run_asks (asks_get hf) more ha hc
  constructor
  · intro t ht
    obtain ⟨hpos, rfl⟩ := PoolConfig.timeout_eq_some.1 ht
    rw [Span.toMillis_ofMillis]
    constructor
    · intro hearly
      rcases hasks with hr | hr
      · exact hr.isFree
      · have hlate := (due_deadline.1 hr.due).2
        omega
    · intro hlate
      rw [← htimeout']
      rcases hasks with hr | hr
      · exact asks_expires hr (ha more List.prefix_rfl) (due_deadline.2 ⟨by omega, by omega⟩)
      · rw [step_resume_of_returned hr.returned, step_resume_of_returned hr.returned]
        exact hr.returned
  · intro hnone
    have hzero : ¬ 0 < (config.withTimeout d).timeoutMillis := fun hpos => by
      have hsome := PoolConfig.timeout_eq_some.2 ⟨hpos, rfl⟩
      exact absurd (hnone.symm.trans hsome) nofun
    rcases hasks with hr | hr
    · exact hr.isFree
    · have hpos := (due_deadline.1 hr.due).1
      exact absurd (htimeout ▸ hpos) hzero

/-- The only object is out, and another caller asks for one with a second to wait. -/
theorem patience_exact_second :
    let a : CallerId := ⟨0⟩
    let b : CallerId := ⟨1⟩
    let d := Span.ofSecs 1 (by decide)
    let config : PoolConfig := ⟨1, 1, 0⟩
    let moves : List (Move Nat) := [.call a .get, .resume a, .worked a (.made 7)]
    let m : Machine Nat := run ⟨Pool.ofConfig (config.withTimeout d), .empty, 0, []⟩ moves
    let m' := (m.step (.call b .get)).run [.resume b, .resume b, .tick 1000]
    1_000_000 ≤ d.toNanos ∧ (∃ t, (config.withTimeout d).timeout = some t ∧ 0 < t.toNanos) ∧
      m'.callers b = some (.blocked (some 1000)) ∧
      ((m'.step (.resume b)).step (.resume b)).callers b = some (.returned (.exhausted 1000)) := by
  intro a b d config moves m m'
  obtain ⟨hlong, -, hget⟩ := patience_exact (α := Nat) config d
  have hd : 1_000_000 ≤ d.toNanos := by decide
  obtain ⟨t, ht, hmillis, hpos, -⟩ := (hlong hd).1
  have hfull : ∀ pre ∈ [.resume b, .resume b, .tick 1000].inits,
      ((m.step (.call b .get)).run pre).pool.idle = [] ∧
        ((m.step (.call b .get)).run pre).pool.hasRoom = false := by decide +kernel
  have hwait := hget moves [.resume b, .resume b, .tick 1000] b (by decide +kernel) (by simp)
    fun pre hpre => atCeiling_iff.2 (hfull pre ((List.mem_inits _ _).2 hpre))
  have hclock : m.clock + t.toMillis ≤ m'.clock := by
    rw [hmillis]
    decide +kernel
  have hend := (hwait.1 t ht).2 hclock
  rw [hmillis, show min d.toMillis (wordBound - 1) = 1000 by decide] at hend
  exact ⟨hd, ⟨t, ht, hpos⟩, by decide +kernel, hend⟩

/-- **Half a millisecond becomes a wait without end**, which is longer than that of a whole one. -/
theorem patience_lost :
    let config : PoolConfig := ⟨1, 1, 0⟩
    let half : Span := { secs := 0, nanos := 500_000 }
    let whole : Span := { secs := 0, nanos := 1_000_000 }
    0 < half.toNanos ∧ (config.withTimeout half).timeout = none ∧ half.toNanos ≤ whole.toNanos ∧
      (config.withTimeout whole).timeout = some whole := by
  decide

end Pool.Machine
end Sluice
