import Sluice.Proofs.Services
import Sluice.Proofs.Stack
import Sluice.Proofs.Suspend

/-!
# A drain is a suspend, and then only looks

* `World.Finds`: what a look at a drain finds, at this moment. `poll_finds`: what `World.poll` finds.
* `World.holdService`: the drain holds its service from the start.
* `Observes`: an operation has answered, and has changed no gate, no coordinator and no listener.
  `step_poll`, `step_cancel`, `firstPoll_observes`: so do looks at a drain, the first as well as later ones,
  and so does dropping it.
* `drain_exact`: a drain from its start to its end.
-/

namespace Sluice

/-- What a drain finds: that the coordinator is suspended, else that its time is over, else that it has to
wait. -/
structure World.Finds (w : World) (k : Coordinator) (y : Drain) (o : DrainOutcome) : Prop where
  drained : o = .drained ↔ k.state = .suspended
  timedOut : ∀ e, o = .timedOut e ↔
    k.state ≠ .suspended ∧ y.deadline ≤ w.clock ∧ e = ⟨y.timeout, (w.snapshot k).pending⟩
  pending : o = .pending ↔ k.state ≠ .suspended ∧ w.clock < y.deadline

namespace World

variable {w v : World} {c : CoordinatorId} {k k' : Coordinator} {x : ServiceId} {y : Drain}

theorem poll_finds (hk : k.published = k.state) (y : Drain) : w.Finds k y (w.poll k y).2 := by
  unfold poll
  rw [hk]
  by_cases hs : k.state = .suspended
  · rw [if_pos hs]
    exact ⟨by simp [hs], by simp [hs], by simp [hs]⟩
  · rw [if_neg hs]
    by_cases hd : y.deadline ≤ w.clock
    · rw [if_pos hd]
      refine ⟨by simp [hs, expire], fun e => ?_, by simp [hs, expire, hd]⟩
      simp only [expire, DrainOutcome.timedOut.injEq, hs, not_false_eq_true, hd, true_and, ne_eq]
      exact eq_comm
    · rw [if_neg hd]
      exact ⟨by simp [hs], by simp [hs, hd], by simpa [hs] using hd⟩

/-- One holder more. -/
def holdService (w : World) (x : ServiceId) : World :=
  match w.services x with
  | none => w
  | some y => w.setService x { y with handles := y.handles + 1 }

theorem holdService_coordinatorOf (w : World) (x : ServiceId) :
    (w.holdService x).coordinatorOf x = w.coordinatorOf x := by
  unfold holdService
  split
  · rfl
  · rename_i y hy
    unfold coordinatorOf
    simp [setService, hy]

/-- A coordinator that has at most lost holders is in the state in which it was. -/
theorem Rests.coordinator_state (h : w.Rests v) (hk : w.coordinators c = some k) :
    ∃ l, v.coordinators c = some l ∧ l.state = k.state ∧ l.published = k.published := by
  rcases h.coordinators c with e | ⟨l, n, hl, -, e⟩
  · exact ⟨k, e.trans hk, rfl, rfl⟩
  · cases hk.symm.trans hl
    exact ⟨_, e, rfl, rfl⟩

end World

namespace Machine

open World

/-- An operation has answered, and has changed nothing but what is beside gates and coordinators; some holders
may be gone. -/
structure Observes (m m' : Machine) (r : Reply) : Prop where
  signal : m'.signal = .replied r
  stack : m'.stack = m.stack
  world : m.world.Rests m'.world

variable {m : Machine} {w : World} {s : List Activation} {d : DrainId} {x : ServiceId} {y : Drain}
  {c : CoordinatorId} {k : Coordinator} {timeout : Span} {after : After}

/-! ## Looks -/

/-- **The first look at a drain**, when the suspend is back. -/
theorem firstPoll_observes (hk : w.coordinatorOf x = some (c, k)) (d : DrainId) (timeout : Span)
    (hpub : k.published = k.state) (signal : Signal) :
    let y : Drain := ⟨x, timeout, w.clock + timeout.toNanos⟩
    ∃ o, Observes ⟨w, s, signal⟩ (firstPoll w s d x timeout) (.drain o) ∧ w.Finds k y o ∧
      (o = .pending → (firstPoll w s d x timeout).world = { w with drains := w.drains.set d y }) := by
  intro y
  have hfinds := poll_finds (w := w) hpub y
  have hrests := rests_poll w k y
  unfold firstPoll
  simp only [hk]
  cases hp : w.poll k y with
  | mk v o =>
    rw [hp] at hfinds hrests
    cases o with
    | pending =>
      obtain rfl : v = w := by
        have hv := poll_of_pending (congrArg Prod.snd hp)
        rw [hp] at hv
        exact congrArg Prod.fst hv
      exact ⟨.pending, ⟨rfl, rfl, rfl, fun _ => rfl, fun _ => .inl rfl⟩, hfinds, fun _ => rfl⟩
    | drained => exact ⟨.drained, ⟨rfl, rfl, hrests.trans (rests_dropService v x)⟩, hfinds, by simp⟩
    | timedOut e => exact ⟨.timedOut e, ⟨rfl, rfl, hrests.trans (rests_dropService v x)⟩, hfinds, by simp⟩

/-- **A later look at a drain.** -/
theorem step_poll (ha : m.signal ≠ .aborted) (hd : m.world.drains d = some y)
    (hk : m.world.coordinatorOf y.service = some (c, k)) (hpub : k.published = k.state) :
    ∃ o, Observes m (step m (.call (.pollDrain d))) (.drain o) ∧ m.world.Finds k y o ∧
      (o = .pending → (step m (.call (.pollDrain d))).world = m.world) := by
  have hfinds := poll_finds (w := m.world) hpub y
  have hrests := rests_poll m.world k y
  rw [step_call ha]
  simp only [perform, pollDrain, pollAt, hd, hk]
  cases hp : m.world.poll k y with
  | mk v o =>
    rw [hp] at hfinds hrests
    -- the drain is over: it is forgotten and lets go of its service
    have herase : v.Rests { v with drains := v.drains.erase d } := ⟨rfl, fun _ => rfl, fun _ => .inl rfl⟩
    have hend : m.world.Rests ({ v with drains := v.drains.erase d }.dropService y.service) :=
      (hrests.trans herase).trans (rests_dropService _ _)
    cases o with
    | pending =>
      obtain rfl : v = m.world := by
        have hv := poll_of_pending (congrArg Prod.snd hp)
        rw [hp] at hv
        exact congrArg Prod.fst hv
      exact ⟨.pending, ⟨rfl, rfl, hrests⟩, hfinds, fun _ => rfl⟩
    | drained => exact ⟨.drained, ⟨rfl, rfl, hend⟩, hfinds, by simp⟩
    | timedOut e => exact ⟨.timedOut e, ⟨rfl, rfl, hend⟩, hfinds, by simp⟩

/-- **A drain that waits is dropped.** -/
theorem step_cancel (ha : m.signal ≠ .aborted) (hd : m.world.drains d = some y) :
    Observes m (step m (.call (.cancelDrain d))) .done := by
  rw [step_call ha]
  simp only [perform, cancelDrain, hd, reply]
  have herase : m.world.Rests { m.world with drains := m.world.drains.erase d } :=
    ⟨rfl, fun _ => rfl, fun _ => .inl rfl⟩
  exact ⟨rfl, rfl, herase.trans (rests_dropService _ _)⟩

/-! ## The start -/

/-- A drain starts as a suspend, with the service held. -/
theorem step_startDrain (ha : m.signal ≠ .aborted) (hd : m.world.drains d = none)
    (hx : m.world.coordinatorOf x = some (c, k)) :
    step m (.call (.startDrain d x timeout)) =
      suspend (m.world.holdService x) m.stack c (.firstPoll d x timeout) := by
  have hheld := (holdService_coordinatorOf m.world x).trans hx
  rw [step_call ha]
  cases hy : m.world.services x with
  | none =>
    rw [coordinatorOf, hy] at hx
    cases hx
  | some z =>
    unfold holdService at hheld ⊢
    rw [hy] at hheld ⊢
    simp only [perform, startDrain, hd, hy, suspendService, hheld]

/-- An operation and its twin are at the same point, or back in the same world. -/
theorem Tandem.outcome {a₁ a₂ : After} {m₁ m₂ : Machine} (h : Tandem s a₁ a₂ m₁ m₂) :
    (m₂.stack ≠ s ∧ m₁.world = m₂.world ∧ m₁.signal = m₂.signal ∧
        m₁.stack.map Activation.code = m₂.stack.map Activation.code) ∨
      ∃ w, m₁ = finish w s a₁ ∧ m₂ = finish w s a₂ := by
  cases h with
  | @inside w t c h l others signal =>
    refine .inl ⟨fun hs => ?_, rfl, rfl, by simp [Activation.code]⟩
    have hlen := congrArg List.length hs
    simp only [List.length_append, List.length_cons] at hlen
    omega
  | @back w => exact .inr ⟨w, rfl, rfl⟩

/-- Where nothing is outstanding the suspend with which a drain starts is complete at once. -/
theorem startDrain_suspended {moves : List Move} (hm : m = run {} moves) (ha : m.signal ≠ .aborted)
    (hd : m.world.drains d = none) (hx : m.world.coordinatorOf x = some (c, k))
    (hidle : ∀ g ∈ k.gates, ¬ m.world.Busy g)
    (hgo : k.state = .suspending → Driven {} moves ∧ k.isAlive = true) :
    ((step m (.call (.startDrain d x timeout))).world.coordinator c).state = .suspended := by
  obtain ⟨-, hk⟩ := coordinatorOf_eq_some hx
  have hs : m.world.Sound := hm ▸ run_sound moves
  obtain ⟨-, hkv⟩ := coordinatorOf_eq_some ((holdService_coordinatorOf m.world x).trans hx)
  rw [step_startDrain ha hd hx]
  unfold suspend
  simp only [hkv]
  cases hst : k.state with
  | running =>
    simp only [if_true]
    set v : World := m.world.holdService x
    have hvg : v.gates = m.world.gates := by
      simp only [v, holdService]
      split <;> rfl
    have hbusy : v.busy k.gates = [] := by
      refine List.eq_nil_iff_forall_not_mem.2 fun ⟨g, n⟩ hgn => ?_
      obtain ⟨hg, z, hz, hne, -⟩ := mem_busy.1 hgn
      rw [hvg] at hz
      have h0 := (hs.gates g z hz).outstanding_nonneg
      exact hidle g hg ⟨z, hz, by omega⟩
    have hb : (k.suspendedWith (v.busy k.gates) v.date).Abides
        ((dispatch (v.suspend c k) m.stack c (.firstPoll d x timeout)).world.coordinator c) :=
      abides_dispatch_set (suspend_coordinators v c k)
    have hsw : (k.suspendedWith (v.busy k.gates) v.date).state = .suspended := by
      rw [Coordinator.suspendedWith_state, if_pos hbusy]
    rw [hb.state_eq (by rw [hsw]; decide), hsw]
  | suspending =>
    -- a suspend that goes on waits for a gate that is busy
    obtain ⟨hdriven, hl⟩ := hgo hst
    have ht : m.world.Tended := hm ▸ run_tended hdriven
    have hf := (hs.coordinators c k hk).sound
    obtain ⟨p, hp⟩ := hf.exists_pending hst
    obtain ⟨⟨g, n⟩, hgn⟩ := List.exists_mem_of_ne_nil _ (hf.waits p hp).ne_nil
    obtain ⟨hg, hb⟩ := (ht.waits_iff hk hl hp g).1
      (Pending.waitsFor_iff.2 (List.mem_map_of_mem hgn))
    exact absurd hb (hidle g hg)
  | suspended =>
    simp only [reduceCtorEq, if_false]
    obtain ⟨l, hl, hls, -⟩ :=
      (finish_rests (m.world.holdService x) m.stack (.firstPoll d x timeout)).coordinator_state hkv
    rw [coordinator_eq hl, hls, hst]

/-! ## Drains -/

/-- **A drain is a suspend, and then only looks.** A new drain of a service is started after any run, with
any time limit.

* Until the suspend is back, whatever its hooks do, all is as if the coordinator had been suspended and the
  service held: worlds, signals and the code that runs. Then the drain is looked at in the world that the
  suspend has left. Its deadline is the time on the clock of that world, and the time limit.
* If no work was in flight at the gates of the coordinator then, and no hook has resumed it, the drain is over
  at once, whatever the time limit.
* If the drain has to wait, it is there for as long as no move ends it. Whenever it is looked at, whatever has
  been done before, it finds that the coordinator is suspended; or else, if the clock has reached that
  deadline, that its time is over, with the gates that the coordinator shows as waited for; or else that it
  has to wait.
* No look and no end of a drain changes a gate or a coordinator, calls a hook, or enters any code. A look
  after which the drain waits changes nothing at all. -/
theorem drain_exact (moves : List Move) (d : DrainId) (x : ServiceId) (timeout : Span) {c : CoordinatorId}
    {k : Coordinator} (ha : (run {} moves).signal ≠ .aborted) (hd : (run {} moves).world.drains d = none)
    (hnew : ∀ a ∈ (run {} moves).stack, a.drain? ≠ some d)
    (hx : (run {} moves).world.coordinatorOf x = some (c, k)) (inner : List Move) :
    let m := run {} moves
    let started := step m (.call (.startDrain d x timeout))
    let suspended := step ⟨m.world.holdService x, m.stack, m.signal⟩ (.call (.suspend c))
    let a := run started inner
    let b := run suspended inner
    Above m.stack suspended inner →
      (b.stack ≠ m.stack → a.world = b.world ∧ a.signal = b.signal ∧
        a.stack.map Activation.code = b.stack.map Activation.code) ∧
      (b.stack = m.stack → b.signal = .replied .done ∧
        ∃ k' o, b.world.coordinators c = some k' ∧
          let y : Drain := ⟨x, timeout, b.world.clock + timeout.toNanos⟩
          Observes b a (.drain o) ∧ b.world.Finds k' y o ∧
          ((∀ g ∈ k.gates, ¬ m.world.Busy g) →
            (k.state = .suspending → Driven {} moves ∧ k.isAlive = true) →
            (∀ pre move, pre ++ [move] <+: inner → ¬ move.Turns (run started pre).world c) →
            o = .drained) ∧
          (o = .pending →
            a.world = { b.world with drains := b.world.drains.set d y } ∧
            ∀ more, (∀ pre move, pre ++ [move] <+: more → ¬ move.Ends (run a pre) d) →
              let v := run a more
              v.signal ≠ .aborted →
                ∃ l r, v.world.coordinators c = some l ∧
                  Observes v (step v (.call (.pollDrain d))) (.drain r) ∧ v.world.Finds l y r ∧
                  (r = .pending → (step v (.call (.pollDrain d))).world = v.world) ∧
                  Observes v (step v (.call (.cancelDrain d))) .done)) := by
  intro m started suspended a b habove
  set held : Machine := ⟨m.world.holdService x, m.stack, m.signal⟩
  have hheld : held.world.coordinatorOf x = some (c, k) := (holdService_coordinatorOf m.world x).trans hx
  obtain ⟨-, hkh⟩ := coordinatorOf_eq_some hheld
  -- both are a suspend in the same world, from the same code
  have htandem : Tandem m.stack (.firstPoll d x timeout) (.reply .done) started suspended := by
    have hs : suspended = Machine.suspend held.world m.stack c (.reply .done) :=
      step_call (m := held) ha _
    rw [hs, show started = _ from step_startDrain ha hd hx]
    exact tandem_of_blind (suspend_blind hkh)
  have ha_run : a = run {} (moves ++ .call (.startDrain d x timeout) :: inner) := by
    rw [run_append]
    rfl
  have hsound : a.world.Sound := ha_run ▸ run_sound _
  rcases (htandem.run habove).outcome with ⟨hout, hw, hsig, hcode⟩ | ⟨w, hfa, hfb⟩
  · exact ⟨fun _ => ⟨hw, hsig, hcode⟩, fun hback => absurd hback hout⟩
  have hb : b = ⟨w, m.stack, .replied .done⟩ := hfb
  refine ⟨fun hout => absurd (by rw [hb]) hout, fun _ => ⟨by rw [hb], ?_⟩⟩
  -- the service still has its coordinator
  obtain ⟨k', hk'⟩ : ∃ k', b.world.coordinatorOf x = some (c, k') :=
    run_coordinatorOf hheld (.call (.suspend c) :: inner)
  obtain ⟨-, hkc⟩ := coordinatorOf_eq_some hk'
  have hfirst : a = firstPoll b.world m.stack d x timeout := by
    rw [hb]
    exact hfa
  obtain ⟨l₀, hl₀, hstate, hpublished⟩ :
      ∃ l, a.world.coordinators c = some l ∧ l.state = k'.state ∧ l.published = k'.published := by
    have hrests := finish_rests b.world m.stack (.firstPoll d x timeout)
    rw [hfirst]
    exact hrests.coordinator_state hkc
  have hpub : k'.published = k'.state := by
    rw [← hpublished, (hsound.coordinators c l₀ hl₀).sound.published, hstate]
  obtain ⟨o, hobs, hfinds, hpending⟩ :=
    firstPoll_observes (s := m.stack) hk' d timeout hpub (.replied .done)
  rw [← hfirst] at hobs hpending
  have hobs : Observes b a (.drain o) := ⟨hobs.signal, hobs.stack.trans (by rw [hb]), hobs.world⟩
  refine ⟨k', o, hkc, hobs, hfinds, fun hidle hgo hturns => ?_, fun ho => ⟨hpending ho, ?_⟩⟩
  · -- the coordinator is suspended from the start of the hooks to their end
    have hat : (started.world.coordinator c).state = .suspended :=
      startDrain_suspended rfl ha hd hx hidle hgo
    have hstart : run {} (moves ++ [.call (.startDrain d x timeout)]) = started := run_snoc _ _ _
    have habides := run_abides (c := c) (moves ++ [.call (.startDrain d x timeout)]) inner
      fun pre move hpre => by
        rw [run_append, hstart]
        exact hturns pre move hpre
    have hall : run {} (moves ++ [.call (.startDrain d x timeout)] ++ inner) = a := by
      rw [run_append, hstart]
    rw [hstart, hall] at habides
    have hstays : (a.world.coordinator c).state = .suspended := by
      rw [Coordinator.Abides.state_eq habides (by rw [hat]; decide), hat]
    rw [coordinator_eq hl₀, hstate] at hstays
    exact hfinds.drained.2 hstays
  · intro more hmore v hv
    have hpends : Pends d ⟨x, timeout, b.world.clock + timeout.toNanos⟩ a := by
      refine ⟨?_, ?_⟩
      · rw [hpending ho]
        exact Table.set_self _ _ _
      · rw [hobs.stack, hb]
        exact hnew
    have hlater := run_pends hpends hmore
    obtain ⟨l, hl⟩ : ∃ l, v.world.coordinatorOf x = some (c, l) := by
      obtain ⟨l, hl⟩ := run_coordinatorOf hx (.call (.startDrain d x timeout) :: inner ++ more)
      rw [run_append] at hl
      exact ⟨l, hl⟩
    obtain ⟨-, hlc⟩ := coordinatorOf_eq_some hl
    have hvs : v.world.Sound := by
      have hv_run : v = run {} (moves ++ .call (.startDrain d x timeout) :: inner ++ more) := by
        rw [run_append, ← ha_run]
      rw [hv_run]
      exact run_sound _
    obtain ⟨r, hpoll, hfound, hsame⟩ :=
      step_poll hv hlater.drain hl (hvs.coordinators c l hlc).sound.published
    exact ⟨l, r, hlc, hpoll, hfound, hsame, step_cancel hv hlater.drain⟩

/-- Time goes by in the hook of the suspend, before the deadline is set. The drain waits for the only gate: it
is over when the gate has reported, and has run out of time a second after the suspend if the gate has not. -/
theorem drain_exact_hooked :
    let c : CoordinatorId := ⟨0⟩
    let x : ServiceId := ⟨0⟩
    let d : DrainId := ⟨0⟩
    let p : Permit := ⟨⟨⟨1, by decide⟩⟩, ⟨⟨0, by decide⟩⟩⟩
    let timeout : Span := Span.ofSecs 1 (by decide)
    let moves : List Move := [.call (.newCoordinator c), .call (.registerGate c p.gate "a"),
      .call (.addListener c ⟨⟨0⟩, "l"⟩ fun _ => .accept), .call (.acquire p.gate p.id),
      .call (.newService x c)]
    let inner : List Move := [.call (.advance 5), .ret { status := 200 }]
    let a := run (step (run {} moves) (.call (.startDrain d x timeout))) inner
    let reported := run a [.call (.release p), .ret { status := 200 }]
    let late := run a [.call (.advance 1_000_000_000)]
    a.signal = .replied (.drain .pending) ∧
      a.world.drains d = some ⟨x, timeout, 1_000_000_005⟩ ∧
      Observes reported (step reported (.call (.pollDrain d))) (.drain .drained) ∧
      Observes late (step late (.call (.pollDrain d))) (.drain (.timedOut ⟨timeout, ["a"]⟩)) := by
  intro c x d p timeout moves inner a reported late
  let held : Machine :=
    ⟨(run {} moves).world.holdService x, (run {} moves).stack, (run {} moves).signal⟩
  have hx : ∃ k, (run {} moves).world.coordinatorOf x = some (c, k) :=
    ⟨{ gates := [p.gate], listeners := [⟨⟨0⟩, "l"⟩], handles := 2 }, by decide +kernel⟩
  obtain ⟨k, hx⟩ := hx
  have habove : Above (run {} moves).stack (step held (.call (.suspend c))) inner :=
    ⟨⟨_, [], rfl⟩, ⟨_, [], rfl⟩, trivial⟩
  obtain ⟨-, hback⟩ := drain_exact moves d x timeout (by decide +kernel) (by decide +kernel)
    (by decide +kernel) hx inner habove
  obtain ⟨-, k', o, -, hobs, -, -, hwait⟩ := hback (by decide +kernel)
  have ho : a.signal = .replied (.drain .pending) := by decide +kernel
  have ho' : o = .pending := by
    have he := hobs.signal.symm.trans ho
    cases he
    rfl
  obtain ⟨-, hpolls⟩ := hwait ho'
  -- none of the moves ends the drain
  have hgoes (m : Machine) (move : Move) (hm : move.drain? [] ≠ some d) : ¬ move.Ends m d := by
    rintro (rfl | rfl | ⟨rfl, -⟩) <;> exact hm rfl
  have hlook (more : List Move) (hmore : ∀ move ∈ more, move.drain? [] ≠ some d)
      (hv : (run a more).signal ≠ .aborted) (r : DrainOutcome)
      (hr : (step (run a more) (.call (.pollDrain d))).signal = .replied (.drain r)) :
      Observes (run a more) (step (run a more) (.call (.pollDrain d))) (.drain r) := by
    obtain ⟨l, r', -, hobs', -⟩ := hpolls more (fun pre move hpre =>
      hgoes _ move (hmore move (hpre.subset (by simp)))) hv
    have he := hobs'.signal.symm.trans hr
    cases he
    exact hobs'
  have hfirst : a.world.drains d = some ⟨x, timeout, 1_000_000_005⟩ := by decide +kernel
  exact ⟨ho, hfirst, hlook _ (by decide) (by decide +kernel) _ (by decide +kernel),
    hlook _ (by decide) (by decide +kernel) _ (by decide +kernel)⟩

end Machine

end Sluice
