import Sluice.Proofs.Drain

/-!
# What a drain that has run out of time says

A drain only looks at its coordinator. When its time is over it says which gates the coordinator waits for at
that moment, whatever has happened since the drain began.

* `Move.looksAt`: the service whose drain a move looks at. `step_timedOut`: what the move has found if the
  time is over.
* `World.Tended.pendingNames_eq`: the names that a suspend shows are those of the gates that are busy.
* `exists_resumes`: a coordinator runs again only if a call has resumed it.
* `timeout_exact`: **a drain that has run out of time names the gates that hold it up**, unless its
  coordinator has been resumed. `timeout_resumed`: one whose coordinator has been resumed.
-/

namespace Sluice

namespace World

variable {w v : World} {c : CoordinatorId} {k : Coordinator} {x : ServiceId} {y : Drain} {e : DrainError}

/-- A drain whose time is over names what the coordinator waits for, which is not suspended. -/
theorem poll_timedOut (h : w.poll k y = (v, .timedOut e)) :
    k.published ≠ .suspended ∧ e.pending = k.pendingNames := by
  unfold poll at h
  split at h
  · cases h
  · rename_i hs
    split at h
    · obtain ⟨-, he⟩ := Prod.mk.inj h
      cases he
      exact ⟨hs, rfl⟩
    · cases h

/-- A coordinator that has at most lost holders shows what it showed, and its service still has it. -/
theorem Rests.coordinatorOf {d : Option DrainId} (h : w.Rests v) (hkeep : w.Keeps d v)
    (hx : w.coordinatorOf x = some (c, k)) :
    ∃ l, v.coordinatorOf x = some (c, l) ∧ l.published = k.published ∧ l.pendingNames = k.pendingNames := by
  obtain ⟨hs, hk⟩ := Machine.coordinatorOf_eq_some hx
  obtain ⟨z, hz, rfl⟩ := Option.map_eq_some_iff.1 hs
  obtain ⟨z', hz', hc⟩ := hkeep.services x z hz
  have hs' : (v.services x).map Service.coordinator = some z.coordinator := by
    rw [hz', Option.map_some, hc]
  rcases h.coordinators z.coordinator with e | ⟨l, n, hl, -, e⟩
  · exact ⟨k, Machine.coordinatorOf_eq hs' (e.trans hk), rfl, rfl⟩
  · cases hk.symm.trans hl
    exact ⟨_, Machine.coordinatorOf_eq hs' e, rfl, rfl⟩

/-- **The names that a suspend shows** are those of the gates at which work is in flight, in order. -/
theorem Tended.pendingNames_eq (h : w.Tended) (hk : w.coordinators c = some k) (hl : k.isAlive = true)
    (hs : k.state = .suspending) :
    k.pendingNames =
      ((w.outstandingGates k).map Prod.fst).mergeSort fun a b => decide (a ≤ b) := by
  obtain ⟨p, hp⟩ := (h.sound.coordinators c k hk).sound.exists_pending hs
  have hnames : (p.gates.map Prod.snd).Perm ((w.outstandingGates k).map Prod.fst) := by
    unfold outstandingGates
    rw [← map_busy h.sound]
    exact (h.perm_busy hk hl hp).map _
  unfold Coordinator.pendingNames
  rw [hp]
  exact mergeSort_eq_of_perm hnames

end World

namespace Machine

open World

/-- The service whose drain a move looks at: a call, or the return of a hook that a drain waits for. -/
def Move.looksAt (m : Machine) : Move → Option ServiceId
  | .call (.startDrain _ x _) => some x
  | .call (.pollDrain d) | .call (.giveUpDrain d) => (m.world.drains d).map Drain.service
  | .ret _ | .panic _ =>
    match m.stack with
    | .hook _ _ _ _ (.firstPoll _ x _) :: _ => some x
    | _ => none
  | _ => none

variable {m : Machine} {w : World} {s : List Activation} {d : DrainId} {x : ServiceId}
  {c : CoordinatorId} {k : Coordinator} {e : DrainError} {move : Move} {timeout : Span}

/-- The time of a drain is over, and this is what its coordinator shows. -/
def TimedOut (w : World) (x : ServiceId) (e : DrainError) : Prop :=
  ∃ c k, w.coordinatorOf x = some (c, k) ∧ k.published ≠ .suspended ∧ e.pending = k.pendingNames

theorem firstPoll_timedOut
    (h : (firstPoll w s d x timeout).signal = .replied (.drain (.timedOut e))) :
    TimedOut (firstPoll w s d x timeout).world x e := by
  have hkeep := (firstPoll_tends w s d x timeout).world
  have hrests : w.Rests (firstPoll w s d x timeout).world :=
    finish_rests w s (.firstPoll d x timeout)
  cases hx : w.coordinatorOf x with
  | none =>
    simp only [firstPoll, hx] at h
    cases h
  | some ck =>
    obtain ⟨c, k⟩ := ck
    cases hp : w.poll k ⟨x, timeout, w.clock + timeout.toNanos⟩ with
    | mk v o =>
      have ho : o = .timedOut e := by
        simp only [firstPoll, hx, hp] at h
        cases o <;> cases h
        rfl
      rw [ho] at hp
      obtain ⟨hs, he⟩ := poll_timedOut hp
      obtain ⟨l, hl, hpub, hnames⟩ := hrests.coordinatorOf hkeep hx
      exact ⟨c, l, hl, hpub ▸ hs, he.trans hnames.symm⟩

theorem finish_firstPoll_timedOut {f : List Activation → After → Machine} (hf : Blind f)
    (h : (f s (.firstPoll d x timeout)).signal = .replied (.drain (.timedOut e))) :
    TimedOut (f s (.firstPoll d x timeout)).world x e := by
  rcases hf with ⟨v, hv⟩ | ⟨v, c, hk, l, others, hv⟩
  · rw [hv] at h ⊢
    exact firstPoll_timedOut h
  · rw [hv] at h
    cases h

theorem pollAt_timedOut {deadline : Drain → Nat} {late : World → DrainError → World} {y : Drain}
    (hlate : ∀ (v : World) e, v.Rests (late v e))
    (hkeep : ∀ (v : World) e, v.Keeps (some d) (late v e))
    (hd : w.drains d = some y)
    (h : (pollAt w s d deadline late).signal = .replied (.drain (.timedOut e))) :
    TimedOut (pollAt w s d deadline late).world y.service e := by
  have hkept := (pollAt_tends (w := w) (s := s) d deadline late hkeep).world
  cases hx : w.coordinatorOf y.service with
  | none =>
    simp only [pollAt, hd, hx] at h
    cases h
  | some ck =>
    obtain ⟨c, k⟩ := ck
    cases hp : w.poll k { y with deadline := deadline y } with
    | mk v o =>
      have hpolled := rests_poll w k { y with deadline := deadline y }
      have ho : o = .timedOut e := by
        simp only [pollAt, hd, hx, hp] at h
        cases o <;> cases h
        rfl
      rw [ho] at hp
      obtain ⟨hs, he⟩ := poll_timedOut hp
      rw [hp] at hpolled
      have hrests : w.Rests (pollAt w s d deadline late).world := by
        simp only [pollAt, hd, hx, hp, reply]
        have herase : v.Rests { late v e with drains := (late v e).drains.erase d } :=
          (hlate v e).trans ⟨rfl, fun _ => rfl, fun _ => .inl rfl⟩
        exact (hpolled.trans herase).trans (rests_dropService _ _)
      obtain ⟨l, hl, hpub, hnames⟩ := hrests.coordinatorOf hkept hx
      exact ⟨c, l, hl, hpub ▸ hs, he.trans hnames.symm⟩

/-- **What a look at a drain has found** if its time is over. -/
theorem step_timedOut (hlook : move.looksAt m = some x)
    (h : (step m move).signal = .replied (.drain (.timedOut e))) :
    TimedOut (step m move).world x e := by
  have ha : m.signal ≠ .aborted := fun ha => by
    rw [step_of_aborted ha, ha] at h
    cases h
  unfold step at h ⊢
  rw [if_neg ha] at h ⊢
  cases move with
  | call op =>
    cases op with
    | startDrain d x' timeout =>
      cases hlook
      simp only [perform, startDrain] at h ⊢
      split at h
      · rename_i y _ hy
        simp only [suspendService] at h ⊢
        split at h
        · cases h
        · rename_i c k hck
          exact finish_firstPoll_timedOut (suspend_blind (coordinatorOf_eq_some hck).2) h
      · cases h
    | pollDrain d =>
      obtain ⟨y, hy, rfl⟩ := Option.map_eq_some_iff.1 hlook
      exact pollAt_timedOut (fun v _ => .refl v) (fun v _ => .refl _ v) hy h
    | giveUpDrain d =>
      obtain ⟨y, hy, rfl⟩ := Option.map_eq_some_iff.1 hlook
      exact pollAt_timedOut (fun v _ => rests_alert v _) (fun v _ => keeps_note v _) hy h
    | _ => cases hlook
  | ret r =>
    simp only [Move.looksAt] at hlook
    split at hlook
    · rename_i c f l others d x' timeout rest hs
      cases hlook
      rw [hs] at h ⊢
      exact finish_firstPoll_timedOut (nextHook_blind m.world c f others) h
    · cases hlook
  | panic payload =>
    simp only [Move.looksAt] at hlook
    split at hlook
    · rename_i c f l others d x' timeout rest hs
      cases hlook
      rw [hs] at h ⊢
      exact finish_firstPoll_timedOut
        (nextHook_blind (m.world.alert (.listenerPanicked l.name f.name payload)) c f others) h
    · cases hlook
  | park r => cases hlook

/-! ## Resumes -/

/-- A drain that starts leaves its coordinator closed. -/
theorem startDrain_closed (ha : m.signal ≠ .aborted) (hd : m.world.drains d = none)
    (hx : m.world.coordinatorOf x = some (c, k)) :
    ((step m (.call (.startDrain d x timeout))).world.coordinator c).state ≠ .running := by
  obtain ⟨hs, hk⟩ := coordinatorOf_eq_some hx
  have hsuspends : Move.Suspends m.world (.call (.startDrain d x timeout)) c :=
    ⟨_, rfl, hs, by simp only [Op.suspends, hd, Option.isNone_none]⟩
  by_cases hr : k.state = .running
  · have hturns : Move.Turns m.world (.call (.startDrain d x timeout)) c :=
      .inl ⟨by rw [coordinator_eq hk, hr], hsuspends⟩
    rw [ne_eq, (step_turns hk ha hturns).2]
    exact fun h => h hr
  · obtain ⟨-, hrests⟩ := step_idle hk (.inl ⟨hsuspends, hr⟩)
    obtain ⟨l, hl, hls, -⟩ := hrests.coordinator_state hk
    rw [coordinator_eq hl, hls]
    exact hr

/-- **A coordinator that is closed runs again only if a call has resumed it.** -/
theorem exists_resumes (before moves : List Move)
    (hclosed : ((run {} before).world.coordinator c).state ≠ .running)
    (hruns : ((run {} (before ++ moves)).world.coordinator c).state = .running) :
    ∃ pre move, pre ++ [move] <+: moves ∧
      ((run {} (before ++ pre)).world.coordinator c).state ≠ .running ∧
      move.Resumes (run {} (before ++ pre)).world c := by
  induction moves using List.reverseRecOn with
  | nil =>
    rw [List.append_nil] at hruns
    exact absurd hruns hclosed
  | append_singleton moves move ih =>
    by_cases hr : ((run {} (before ++ moves)).world.coordinator c).state = .running
    · obtain ⟨pre, x, hpre, hx⟩ := ih hr
      exact ⟨pre, x, hpre.trans (List.prefix_append _ _), hx⟩
    · -- the last move has resumed it
      refine ⟨moves, move, List.prefix_rfl, hr, ?_⟩
      by_contra hres
      have hstays : (run {} (before ++ moves)).world.Abides c
          (step (run {} (before ++ moves)) move).world := by
        refine step_abides (run_sound _) ?_
        rintro (⟨hs, -⟩ | ⟨-, hm⟩)
        · exact hr hs
        · exact hres hm
      rw [← List.append_assoc, run_snoc] at hruns
      exact hr ((Coordinator.Abides.running_iff hstays).1 hruns)

/-! ## Drains that have run out of time -/

/-- **A drain that has run out of time names the gates that hold it up**, unless its coordinator has been
resumed. Code leaves the gates to their coordinators, calls only coordinators that somebody holds, and adds a
gate to one of them at a time. Whenever a look at a drain of a service ends with the last move because its time
is over, and whatever has been done since it began:

* the coordinator is not suspended, and the drain names what a snapshot shows as waited for;
* if the coordinator suspends, and somebody holds it, these are the names of the gates at which work is in
  flight, in order, and there is one;
* if the coordinator runs there are none, and since each start of a drain of the service a call has resumed
  it. -/
theorem timeout_exact (moves : List Move) {move : Move} {x : ServiceId} {e : DrainError}
    (h : Driven {} (moves ++ [move])) (hlook : move.looksAt (run {} moves) = some x)
    (hover : (run {} (moves ++ [move])).signal = .replied (.drain (.timedOut e))) :
    let m := run {} (moves ++ [move])
    ∃ c k, m.world.coordinatorOf x = some (c, k) ∧ k.state ≠ .suspended ∧
      e.pending = (m.world.snapshot k).pending ∧
      (k.state = .suspending → k.isAlive = true → e.pending ≠ [] ∧
        e.pending = ((m.world.outstandingGates k).map Prod.fst).mergeSort fun a b => decide (a ≤ b)) ∧
      (k.state = .running → e.pending = [] ∧
        ∀ pre d timeout later,
          moves ++ [move] = pre ++ .call (.startDrain d x timeout) :: later →
          (run {} pre).signal ≠ .aborted → (run {} pre).world.drains d = none →
          (run {} pre).world.coordinatorOf x ≠ none →
          ∃ mid move', mid ++ [move'] <+: later ∧
            let w := (run {} (pre ++ .call (.startDrain d x timeout) :: mid)).world
            (w.coordinator c).state ≠ .running ∧ move'.Resumes w c) := by
  intro m
  have ht : m.world.Tended := run_tended h
  obtain ⟨c, k, hx, hs, he⟩ : TimedOut m.world x e := by
    have hm : m = step (run {} moves) move := run_snoc {} moves move
    rw [hm]
    exact step_timedOut hlook (by rw [← hm]; exact hover)
  obtain ⟨-, hk⟩ := coordinatorOf_eq_some hx
  have hks := (ht.sound.coordinators c k hk).sound
  rw [hks.published] at hs
  refine ⟨c, k, hx, hs, he, fun hsus hl => ⟨?_, ?_⟩, fun hrun => ⟨?_, ?_⟩⟩
  · rw [he]
    exact hks.pendingNames_ne_nil.2 hsus
  · rw [he]
    exact ht.pendingNames_eq hk hl hsus
  · rw [he]
    by_contra hne
    have hsus := hks.pendingNames_ne_nil.1 hne
    rw [hrun] at hsus
    cases hsus
  · intro pre d timeout later hall ha hd hx₀
    -- the service had this coordinator when the drain began
    obtain ⟨⟨c₀, k₀⟩, hx₀⟩ := Option.ne_none_iff_exists'.1 hx₀
    obtain ⟨k', hx'⟩ := run_coordinatorOf hx₀ (.call (.startDrain d x timeout) :: later)
    rw [← run_append, ← hall] at hx'
    obtain rfl : c₀ = c := by
      have hc := hx'.symm.trans hx
      cases hc
      rfl
    have hstart : run {} (pre ++ [.call (.startDrain d x timeout)]) =
        step (run {} pre) (.call (.startDrain d x timeout)) := run_snoc _ _ _
    have hruns : ((run {} (pre ++ [.call (.startDrain d x timeout)] ++ later)).world.coordinator
        c₀).state = .running := by
      rw [← List.append_cons, ← hall, coordinator_eq hk]
      exact hrun
    obtain ⟨mid, move', hpre, hclosed, hres⟩ := exists_resumes _ later
      (by rw [hstart]; exact startDrain_closed ha hd hx₀) hruns
    rw [← List.append_cons] at hclosed hres
    exact ⟨mid, move', hpre, hclosed, hres⟩

/-- A drain waits for a gate that does not become idle. -/
theorem timeout_exact_stuck :
    let c : CoordinatorId := ⟨0⟩
    let x : ServiceId := ⟨0⟩
    let d : DrainId := ⟨0⟩
    let p : Permit := ⟨⟨⟨1, by decide⟩⟩, ⟨⟨0, by decide⟩⟩⟩
    let timeout : Span := Span.ofSecs 1 (by decide)
    let moves : List Move := [.call (.newCoordinator c), .call (.registerGate c p.gate "http"),
      .call (.acquire p.gate p.id), .call (.newService x c), .call (.startDrain d x timeout),
      .call (.advance 1_000_000_000)]
    let m := run {} (moves ++ [.call (.pollDrain d)])
    ∃ e k, m.signal = .replied (.drain (.timedOut e)) ∧ m.world.coordinatorOf x = some (c, k) ∧
      k.state = .suspending ∧ k.isAlive = true ∧ e.pending ≠ [] ∧
      e.pending = ((m.world.outstandingGates k).map Prod.fst).mergeSort fun a b => decide (a ≤ b) := by
  intro c x d p timeout moves m
  have h : Driven {} (moves ++ [.call (.pollDrain d)]) :=
    ⟨orderly_call nofun nofun rfl nofun, orderly_call nofun nofun rfl nofun,
      orderly_call nofun nofun rfl nofun, orderly_call nofun nofun rfl nofun,
      orderly_call nofun nofun rfl nofun, orderly_call nofun nofun rfl nofun,
      orderly_call nofun nofun rfl nofun, trivial⟩
  have hover : m.signal = .replied (.drain (.timedOut ⟨timeout, ["http"]⟩)) := by decide +kernel
  have hx : m.world.coordinatorOf x = some (c,
      { state := .suspending, generation := 1, gates := [p.gate],
        pending := some ⟨1, [(p.gate, "http")]⟩, published := .suspending, version := 1,
        handles := 2 }) := by decide +kernel
  obtain ⟨c', k, hx', -, -, hbusy, -⟩ := timeout_exact (x := x) moves h (by decide +kernel) hover
  cases hx.symm.trans hx'
  obtain ⟨hne, hnames⟩ := hbusy rfl rfl
  exact ⟨_, _, hover, hx, rfl, rfl, hne, hnames⟩

/-- **A drain can run out of time although its coordinator runs.** It is resumed while the drain waits: a second
after the drain began, that reports that its time is over, and names no gate, while work is in flight. -/
theorem timeout_resumed :
    let c : CoordinatorId := ⟨0⟩
    let x : ServiceId := ⟨0⟩
    let d : DrainId := ⟨0⟩
    let p : Permit := ⟨⟨⟨1, by decide⟩⟩, ⟨⟨0, by decide⟩⟩⟩
    let timeout : Span := Span.ofSecs 1 (by decide)
    let moves : List Move := [.call (.newCoordinator c), .call (.registerGate c p.gate "http"),
      .call (.acquire p.gate p.id), .call (.newService x c), .call (.startDrain d x timeout),
      .call (.resume c), .call (.advance 1_000_000_000), .call (.pollDrain d)]
    let m := run {} moves
    Driven {} moves ∧ m.signal = .replied (.drain (.timedOut ⟨timeout, []⟩)) ∧
      ∃ k y, m.world.coordinatorOf x = some (c, k) ∧ k.isAlive = true ∧ k.state = .running ∧
        k.gates = [p.gate] ∧ m.world.gates p.gate = some y ∧ y.outstanding = 1 := by
  intro c x d p timeout moves m
  have h : Driven {} moves :=
    ⟨orderly_call nofun nofun rfl nofun, orderly_call nofun nofun rfl nofun,
      orderly_call nofun nofun rfl nofun, orderly_call nofun nofun rfl nofun,
      orderly_call nofun nofun rfl nofun, orderly_call nofun nofun rfl nofun,
      orderly_call nofun nofun rfl nofun, orderly_call nofun nofun rfl nofun, trivial⟩
  have hx : m.world.coordinatorOf x = some (c,
      { generation := 2, gates := [p.gate], version := 2, handles := 2 }) := by decide +kernel
  have hg : m.world.gates p.gate =
      some { name := "http", outstanding := 1, permits := [p.id] } := by decide +kernel
  exact ⟨h, by decide +kernel, _, _, hx, rfl, rfl, rfl, hg, rfl⟩

end Machine

end Sluice
