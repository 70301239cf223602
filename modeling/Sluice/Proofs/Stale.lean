import Sluice.Proofs.Stranded

/-!
# Slots that are taken under a cap of before

A call reads the cap of a pool, and takes a slot under it with its next access. If the cap is changed in between, the
call does not know: the new cap is for the calls that read it afterwards.

* `raising_step`: who is about to take a slot has been so already, or has just read the cap. `slots_step`: no slot is
  taken otherwise. `cap_step`: the cap is changed only by whoever is to change it.
* `Shared.HasRead`: a caller has read this cap, and has only to take a slot under it.
* `Shared.Bounded`: neither are more slots taken than the cap allows nor is anybody about to. `Shared.Heeds`: the cap
  is not lowered below what is taken, nor below a cap that somebody has read. **A pool where it never is stays
  bounded** (`run_bounded`).
* `raising_since`: while the cap stays, only a caller that has read another one before it was changed has done so.
* `stale_exact`: **every slot is taken under the cap that its caller has read**. `capacity_exceeded`: this need not be
  the one in force.
-/

namespace Sluice.Pool.Shared

variable {α : Type} {m : Shared α} {c d : CallerId} {p : Place α} {cap n : Nat} {deadline : Option Nat}
  {move : Move α} {moves : List (Move α)}

/-! ## One access -/

theorem rouse_eq_raising : rouse p = .raising cap deadline ↔ p = .raising cap deadline := by
  cases p <;> first | rfl | exact iff_of_false nofun nofun

/-- A caller that is about to take a slot has read the cap with its access. -/
theorem go_raising (hp : m.callers c = some p) (h : (m.go c p).callers c = some (.raising cap deadline)) :
    p = .reading deadline ∧ m.pool.maxInstances = cap ∨ p = .raising cap deadline := by
  have hput {v : Shared α} {q : Place α} (hq : (v.put c q).callers c = some (.raising cap deadline)) :
      q = .raising cap deadline := Option.some.inj ((put_self v c q).symm.trans hq)
  have hlock {q : Place α} (hl : (m.lock c q).callers c = some (.raising cap deadline)) :
      q = .raising cap deadline ∨ p = .raising cap deadline := by
    unfold Shared.lock at hl
    split at hl
    · exact .inl (hput hl)
    · exact .inr (Option.some.inj (hp.symm.trans hl))
  cases p with
  | reading t =>
    cases hput h
    exact .inl ⟨rfl, rfl⟩
  | locking _ | relocking _ | calling _ => exact (hlock h).elim nofun nofun
  | unlocking r _ => cases r <;> cases hput h
  | freeing next | weighing _ next | alerting next | leaving next =>
    simp only [Shared.go] at h
    repeat' split at h
    all_goals first | cases hput h | cases next <;> cases hput h
  | asleep _ | creating | destroying _ _ | returned _ => cases hp.symm.trans h
  | _ =>
    simp only [Shared.go] at h
    repeat' split at h
    all_goals cases hput h

/-- **Who is about to take a slot** has been so already, or has just read the cap. -/
theorem raising_step (h : (m.step move).callers d = some (.raising cap deadline)) :
    m.callers d = some (.raising cap deadline) ∨
      move = .access d ∧ m.callers d = some (.reading deadline) ∧ m.pool.maxInstances = cap := by
  by_cases hd : move.caller? = some d
  swap
  · rcases step_others m hd with he | he
    · exact .inl (he.symm.trans h)
    · obtain ⟨p, hp, hr⟩ := Option.map_eq_some_iff.1 (he.symm.trans h)
      exact .inl (rouse_eq_raising.1 hr ▸ hp)
  cases move with
  | call c k =>
    obtain rfl := Option.some.inj hd
    simp only [step] at h
    split at h
    · cases k <;> cases (put_self _ _ _).symm.trans h
    · exact .inl h
  | access c =>
    obtain rfl := Option.some.inj hd
    cases hp : m.callers c with
    | none =>
      simp only [step, access, hp] at h
      cases h
    | some p =>
      simp only [step, access, hp] at h
      rcases go_raising hp h with ⟨rfl, hcap⟩ | rfl
      · exact .inr ⟨rfl, rfl, hcap⟩
      · exact .inl rfl
  | rouse c =>
    obtain rfl := Option.some.inj hd
    simp only [step] at h
    split at h
    · cases (put_self _ _ _).symm.trans h
    · exact .inl h
  | worked c w =>
    obtain rfl := Option.some.inj hd
    simp only [step, Shared.worked] at h
    split at h
    all_goals first | exact .inl h | cases (put_self _ _ _).symm.trans h
  | tick millis => cases hd

/-- What a move does to the slots and to the cap. -/
inductive Adjusts (m : Shared α) : Move α → Shared α → Prop
  | keeps {move : Move α} {v : Shared α} (slots : v.pool.instances ≤ m.pool.instances)
    (same : v.pool.maxInstances = m.pool.maxInstances) : Adjusts m move v
  /-- A slot is taken, under the cap that the caller has read. -/
  | takes {c : CallerId} {cap : Nat} {deadline : Option Nat} {v : Shared α}
    (place : m.callers c = some (.raising cap deadline)) (room : cap = 0 ∨ m.pool.instances < cap)
    (slots : v.pool.instances = m.pool.instances + 1) (same : v.pool.maxInstances = m.pool.maxInstances) :
    Adjusts m (.access c) v
  /-- The cap is changed. -/
  | caps {c : CallerId} {n : Nat} {v : Shared α} (place : m.callers c = some (.capping n))
    (slots : v.pool.instances = m.pool.instances) (changed : v.pool.maxInstances = n) : Adjusts m (.access c) v

theorem adjusts_of_eq {v : Shared α} (slots : v.pool.instances = m.pool.instances)
    (same : v.pool.maxInstances = m.pool.maxInstances) : m.Adjusts move v := .keeps (Nat.le_of_eq slots) same

theorem go_adjusts (hp : m.callers c = some p) : m.Adjusts (.access c) (m.go c p) := by
  cases p with
  | raising cap deadline =>
    simp only [Shared.go]
    split
    · exact .takes hp ‹_› rfl rfl
    · exact adjusts_of_eq rfl rfl
  | capping n => exact .caps hp rfl rfl
  | freeing next =>
    simp only [Shared.go]
    split
    · exact adjusts_of_eq rfl rfl
    · exact .keeps (Nat.sub_le _ _) rfl
  | locking _ | relocking _ | calling _ =>
    simp only [Shared.go, Shared.lock]
    split <;> exact adjusts_of_eq rfl rfl
  | _ =>
    simp only [Shared.go]
    repeat' split
    all_goals exact adjusts_of_eq rfl rfl

/-- **A slot is taken** only by a caller that has read a cap, and **the cap is changed** only by whoever is to change
it. -/
theorem step_adjusts (m : Shared α) (move : Move α) : m.Adjusts move (m.step move) := by
  cases move with
  | access c =>
    simp only [step, Shared.access]
    split
    · exact go_adjusts ‹_›
    · exact adjusts_of_eq rfl rfl
  | call _ _ | rouse _ =>
    simp only [step]
    split <;> exact adjusts_of_eq rfl rfl
  | worked c w =>
    simp only [step, Shared.worked]
    split <;> exact adjusts_of_eq rfl rfl
  | tick millis => exact adjusts_of_eq rfl rfl

theorem takes_of_lt (h : m.pool.instances < (m.step move).pool.instances) :
    (m.step move).pool.instances = m.pool.instances + 1 ∧ ∃ c cap deadline, move = .access c ∧
      m.callers c = some (.raising cap deadline) ∧ (cap = 0 ∨ m.pool.instances < cap) := by
  have hadjusts := step_adjusts m move
  generalize m.step move = v at hadjusts h
  cases hadjusts with
  | keeps slots => omega
  | takes place room slots => exact ⟨slots, _, _, _, rfl, place, room⟩
  | caps place slots => omega

/-! ## The cap that was read -/

/-- A caller has read this cap, and since then it has only to take a slot under it. -/
def HasRead (m : Shared α) (moves : List (Move α)) (c : CallerId) (cap : Nat) : Prop :=
  ∃ before after deadline, moves = before ++ .access c :: after ∧
    (m.run before).callers c = some (.reading deadline) ∧ (m.run before).pool.maxInstances = cap ∧
    ∀ first, first <+: after → (m.run (before ++ .access c :: first)).callers c = some (.raising cap deadline)

/-- **Whoever is about to take a slot has read the cap.** -/
theorem run_hasRead (hm : ∀ c, m.callers c = none) (moves : List (Move α))
    (h : (m.run moves).callers c = some (.raising cap deadline)) : m.HasRead moves c cap := by
  induction moves using List.reverseRecOn with
  | nil => cases (hm c).symm.trans h
  | append_singleton moves move ih =>
    rcases raising_step (run_snoc m moves move ▸ h) with hp | ⟨rfl, hp, hcap⟩
    · obtain ⟨before, after, t, rfl, hr, hc, ha⟩ := ih hp
      obtain rfl : t = deadline := by
        have hlast := (ha after (List.prefix_refl after)).symm.trans hp
        simpa using hlast
      refine ⟨before, after ++ [move], t, by simp, hr, hc, fun first hf => ?_⟩
      rcases List.prefix_concat_iff.1 hf with rfl | hf
      · simpa using h
      · exact ha first hf
    · refine ⟨moves, [], deadline, rfl, hp, hcap, fun first hf => ?_⟩
      obtain rfl := List.prefix_nil.1 hf
      exact h

/-! ## A cap that is not lowered too far -/

/-- Neither are more slots taken than the cap allows, nor is anybody about to take one under a greater cap. -/
structure Bounded (m : Shared α) : Prop where
  slots : m.pool.instances ≤ m.pool.maxInstances
  positive : 0 < m.pool.maxInstances
  read : ∀ c cap deadline, m.callers c = some (.raising cap deadline) → 0 < cap ∧ cap ≤ m.pool.maxInstances

/-- If a move changes the cap, it is neither to 0 nor below the number of slots that are taken, nor below a cap
that a caller has read and is about to take a slot under. -/
def Heeds (m : Shared α) (move : Move α) : Prop :=
  ∀ c n, move = .access c → m.callers c = some (.capping n) →
    0 < n ∧ m.pool.instances ≤ n ∧ ∀ d cap deadline, m.callers d = some (.raising cap deadline) → cap ≤ n

/-- No move changes the cap otherwise. -/
def Heeded (m : Shared α) : List (Move α) → Prop
  | [] => True
  | move :: moves => m.Heeds move ∧ (m.step move).Heeded moves

theorem bounded_ofConfig {config : PoolConfig} (h : 0 < config.maxInstances) :
    (ofConfig config : Shared α).Bounded := ⟨Nat.zero_le _, h, nofun⟩

theorem step_bounded (h : m.Bounded) (hm : m.Heeds move) : (m.step move).Bounded := by
  have hadjusts := step_adjusts m move
  have hraising (d : CallerId) (cap : Nat) (deadline : Option Nat)
      (hd : (m.step move).callers d = some (.raising cap deadline)) := raising_step hd
  generalize m.step move = v at hadjusts hraising
  have hslots := h.slots
  have hread (hcap : v.pool.maxInstances = m.pool.maxInstances) (d : CallerId) (cap : Nat) (deadline : Option Nat)
      (hd : v.callers d = some (.raising cap deadline)) : 0 < cap ∧ cap ≤ v.pool.maxInstances := by
    rw [hcap]
    rcases hraising d cap deadline hd with hp | ⟨-, -, rfl⟩
    · exact h.read d cap deadline hp
    · exact ⟨h.positive, Nat.le_refl _⟩
  cases hadjusts with
  | keeps slots same => exact ⟨by omega, same ▸ h.positive, hread same⟩
  | takes place room slots same =>
    have hcap := h.read _ _ _ place
    exact ⟨by omega, same ▸ h.positive, hread same⟩
  | caps place slots changed =>
    obtain ⟨hpos, hle, hstale⟩ := hm _ _ rfl place
    refine ⟨by omega, changed ▸ hpos, fun d cap deadline hd => ?_⟩
    rcases hraising d cap deadline hd with hp | ⟨he, hp, -⟩
    · exact ⟨(h.read d cap deadline hp).1, changed ▸ hstale d cap deadline hp⟩
    · -- the one that moves does not read the cap
      cases he
      cases place.symm.trans hp

/-- **A pool stays bounded** if its cap is never lowered below the slots that are taken, nor below a cap that has been
read. -/
theorem run_bounded (h : m.Bounded) (hm : m.Heeded moves) : (m.run moves).Bounded := by
  induction moves generalizing m with
  | nil => exact h
  | cons move moves ih => exact ih (step_bounded h hm.1) hm.2

/-! ## A cap that stays -/

/-- **While the cap stays**, whoever is about to take a slot under another one has read it before. -/
theorem raising_since (hcap : ∀ first, first <+: moves → (m.run first).pool.maxInstances = n) (hne : cap ≠ n)
    (h : (m.run moves).callers c = some (.raising cap deadline)) :
    ∀ first, first <+: moves → (m.run first).callers c = some (.raising cap deadline) := by
  induction moves using List.reverseRecOn with
  | nil =>
    intro first hf
    obtain rfl := List.prefix_nil.1 hf
    exact h
  | append_singleton moves move ih =>
    have hbefore (first : List (Move α)) (hf : first <+: moves) : first <+: moves ++ [move] :=
      hf.trans (List.prefix_append _ _)
    have hp : (m.run moves).callers c = some (.raising cap deadline) := by
      refine (raising_step (run_snoc m moves move ▸ h)).resolve_right fun ⟨_, _, hread⟩ => hne ?_
      exact hread.symm.trans (hcap moves (hbefore moves (List.prefix_refl moves)))
    intro first hf
    rcases List.prefix_concat_iff.1 hf with rfl | hf
    · exact h
    · exact ih (fun first hf => hcap first (hbefore first hf)) hp first hf

/-- **Every slot is taken under the cap that its caller has read.** Between any accesses of any number of callers:

* a move takes at most one slot, and does so for a caller that has read the cap since it last looked for an object.
  No more slots are taken then than that cap allows, unless it was 0.
* if the cap is positive from the start, and is never changed to 0, nor to less than the slots that are taken, nor
  to less than a cap under which somebody is about to take one, no more slots are ever taken than it allows.
* after the cap has been changed, and while it stays and at least as many slots are taken as it allows, one more is
  taken only by a caller that had read another cap before, and has been about to take a slot ever since. -/
theorem stale_exact (config : PoolConfig) (moves : List (Move α)) :
    let s : Shared α := ofConfig config
    let m := s.run moves
    (∀ move, m.pool.instances < (m.step move).pool.instances →
      (m.step move).pool.instances = m.pool.instances + 1 ∧
      ∃ c cap, move = .access c ∧ s.HasRead moves c cap ∧ (cap = 0 ∨ (m.step move).pool.instances ≤ cap)) ∧
    (0 < config.maxInstances → s.Heeded moves → m.pool.instances ≤ m.pool.maxInstances) ∧
    ∀ c n after, m.callers c = some (.capping n) → 0 < n →
      (∀ first, first <+: after → ((m.step (.access c)).run first).pool.maxInstances = n ∧
        n ≤ ((m.step (.access c)).run first).pool.instances) →
      ∀ move, ((m.step (.access c)).run after).pool.instances <
          (((m.step (.access c)).run after).step move).pool.instances →
        ∃ d cap deadline, move = .access d ∧ (cap = 0 ∨ n < cap) ∧ m.callers d = some (.raising cap deadline) ∧
          ∀ first, first <+: after →
            ((m.step (.access c)).run first).callers d = some (.raising cap deadline) := by
  intro s m
  refine ⟨fun move hlt => ?_, fun hpos hm => (run_bounded (bounded_ofConfig hpos) hm).slots, ?_⟩
  · obtain ⟨hslots, c, cap, deadline, rfl, hp, hroom⟩ := takes_of_lt hlt
    refine ⟨hslots, c, cap, rfl, run_hasRead (fun _ => rfl) moves hp, ?_⟩
    omega
  · intro c n after hcapping hn hstays move hlt
    obtain ⟨-, d, cap, deadline, rfl, hp, hroom⟩ := takes_of_lt hlt
    have hover : cap = 0 ∨ n < cap := hroom.imp_right (hstays after (List.prefix_refl after)).2.trans_lt
    have hsince := raising_since (fun first hf => (hstays first hf).1) (by omega) hp
    have hfirst : (m.step (.access c)).callers d = some (.raising cap deadline) := hsince [] List.nil_prefix
    refine ⟨d, cap, deadline, rfl, hover, ?_, hsince⟩
    -- whoever changes the cap does not read it
    refine (raising_step hfirst).resolve_right fun ⟨he, hread, _⟩ => ?_
    cases he
    cases hcapping.symm.trans hread

/-- Of three slots two are taken, and caller 3 has read that there are three. Then caller 1 is about to lower the cap to
two. -/
def lowering : List (Move Nat) :=
  making ⟨1⟩ 0 ++ making ⟨2⟩ 1 ++ .call ⟨3⟩ .get :: accesses 2 ⟨3⟩ ++ [.call ⟨1⟩ (.setMaxSize 2)]

/-- A pool of three slots that keeps up to two idle objects and lets callers wait for ever. -/
def triple : PoolConfig := ⟨3, 2, 0⟩

/-- Caller 1 lowers the cap when it has one object and nobody else is there. -/
def heeding : List (Move Nat) := making ⟨1⟩ 0 ++ [.call ⟨1⟩ (.setMaxSize 2), .access ⟨1⟩]

theorem heeded_heeding : (ofConfig triple).Heeded heeding := by
  have hplace {m : Shared Nat} {c : CallerId} (h : m.flag (fun | .capping _ => true | _ => false) c = false) :
      m.Heeds (.access c) := by
    intro d n he hp
    cases he
    cases (flag_of hp).symm.trans h
  refine ⟨nofun, hplace (by decide +kernel), hplace (by decide +kernel), hplace (by decide +kernel), nofun, nofun,
    fun c n he hp => ?_, trivial⟩
  cases he
  cases hp
  refine ⟨by decide, by decide +kernel, fun d cap deadline hd => ?_⟩
  by_cases hdc : d = ⟨1⟩
  · subst hdc
    cases hd
  · have hmovers : ∀ move ∈ making ⟨1⟩ 0 ++ [.call ⟨1⟩ (.setMaxSize 2)], move.caller? = some ⟨1⟩ := by decide
    have habsent : ((ofConfig triple).run (making ⟨1⟩ 0 ++ [.call ⟨1⟩ (.setMaxSize 2)])).callers d = none :=
      run_absent rfl fun move hm he => hdc (Option.some.inj (he.symm.trans (hmovers move hm)))
    cases habsent.symm.trans hd

/-- Caller 3 takes the third slot when the cap has been lowered to two, as it had read three before. In a run that
lowers the cap to two where one slot is taken and nobody has read three, there are not more. -/
theorem stale_exact_lowered :
    (∃ cap, (ofConfig triple).HasRead (lowering ++ [.access ⟨1⟩]) ⟨3⟩ cap ∧
      (cap = 0 ∨ (((ofConfig triple).run (lowering ++ [.access ⟨1⟩])).step (.access ⟨3⟩)).pool.instances ≤ cap)) ∧
    (∃ cap, (cap = 0 ∨ 2 < cap) ∧ ((ofConfig triple).run lowering).callers ⟨3⟩ = some (.raising cap none)) ∧
    ((ofConfig triple).run heeding).pool.maxInstances = 2 ∧
      ((ofConfig triple).run heeding).pool.instances ≤ ((ofConfig triple).run heeding).pool.maxInstances := by
  have hplace : ((ofConfig triple).run lowering).callers ⟨3⟩ = some (.raising 3 none) := by decide +kernel
  obtain ⟨-, c, cap, hc, hread, hroom⟩ :=
    (stale_exact triple (lowering ++ [.access ⟨1⟩])).1 (.access ⟨3⟩) (by decide +kernel)
  cases hc
  obtain ⟨d, before, deadline, hd, hover, hp, -⟩ :=
    (stale_exact triple lowering).2.2 ⟨1⟩ 2 [] (by decide +kernel) (by decide)
      (fun first hf => by
        obtain rfl := List.prefix_nil.1 hf
        decide +kernel)
      (.access ⟨3⟩) (by decide +kernel)
  cases hd
  cases hplace.symm.trans hp
  exact ⟨⟨cap, hread, hroom⟩, ⟨3, hover, hplace⟩, by decide +kernel,
    (stale_exact triple heeding).2.1 (by decide) heeded_heeding⟩

/-- **Too many slots are taken**: it is not so that whoever takes one finds room under the cap that is in force. -/
theorem capacity_exceeded : ¬ ∀ (config : PoolConfig) (moves : List (Move Nat)) (move : Move Nat),
    ((ofConfig config).run moves).pool.instances < (((ofConfig config).run moves).step move).pool.instances →
      (((ofConfig config).run moves).step move).pool.maxInstances = 0 ∨
        (((ofConfig config).run moves).step move).pool.instances ≤
          (((ofConfig config).run moves).step move).pool.maxInstances := by
  intro h
  exact absurd (h triple (lowering ++ [.access ⟨1⟩]) (.access ⟨3⟩) (by decide +kernel)) (by decide +kernel)

end Sluice.Pool.Shared
