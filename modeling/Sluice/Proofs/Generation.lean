import Mathlib.Algebra.Group.Nat.Even
import Sluice.Proofs.Delivery

/-!
# Generations

A coordinator counts the calls that suspend it while it runs and those that resume it while it does not.
Nothing else takes it out of the attempt to suspend in which it is, however late a gate reports: all that
can still happen is that the attempt becomes complete.

* `Coordinator.Abides`: nothing has happened to a coordinator but this. `Abides` for worlds: deliveries,
  callbacks and registrations leave it so.
* `Change.passes`: **a change leaves a coordinator where it is, or is a call that takes it on**.
* `Move.Turns`, `step_turns`, `step_abides`: the calls that take it on, what they do to it, and that no
  other move does.
* `generation_exact`: the generation in any run, and what changes it.
-/

namespace Sluice

/-- Nothing has happened to a coordinator's attempt to suspend, but that it may have become complete. A
coordinator that does not suspend waits for what it waited for, and watchers have seen nothing. -/
structure Coordinator.Abides (k k' : Coordinator) : Prop where
  generation : k'.generation = k.generation
  state : k'.state = k.state ∨ k.state = .suspending ∧ k'.state = .suspended
  version : k.version ≤ k'.version
  settled : k.state ≠ .suspending →
    k'.pending = k.pending ∧ k'.suspendedAt = k.suspendedAt ∧ k'.published = k.published ∧
      k'.version = k.version

namespace Coordinator

variable {k k' k'' : Coordinator} {g : GateId} {date name : String}

theorem Abides.refl (k : Coordinator) : k.Abides k :=
  ⟨rfl, .inl rfl, le_rfl, fun _ => ⟨rfl, rfl, rfl, rfl⟩⟩

theorem Abides.state_eq (h : k.Abides k') (hs : k.state ≠ .suspending) : k'.state = k.state := by
  rcases h.state with e | ⟨e, -⟩
  · exact e
  · exact absurd e hs

theorem Abides.running_iff (h : k.Abides k') : k'.state = .running ↔ k.state = .running := by
  rcases h.state with e | ⟨e, e'⟩
  · rw [e]
  · simp [e, e']

theorem Abides.trans (h : k.Abides k') (h' : k'.Abides k'') : k.Abides k'' := by
  refine ⟨h'.generation.trans h.generation, ?_, h.version.trans h'.version, fun hs => ?_⟩
  · rcases h.state with e | ⟨e, e'⟩
    · rw [← e]
      exact h'.state
    · -- it is complete by then, and stays so
      have hs' : k'.state ≠ .suspending := by rw [e']; decide
      exact .inr ⟨e, (h'.state_eq hs').trans e'⟩
  · have hs' : k'.state ≠ .suspending := by rw [h.state_eq hs]; exact hs
    obtain ⟨hp, hd, hb, hv⟩ := h.settled hs
    obtain ⟨hp', hd', hb', hv'⟩ := h'.settled hs'
    exact ⟨hp'.trans hp, hd'.trans hd, hb'.trans hb, hv'.trans hv⟩

theorem Alike.abides (h : k.Alike k') : k.Abides k' := by
  obtain ⟨_, _, _, _, rfl⟩ := h
  exact ⟨rfl, .inl rfl, le_rfl, fun _ => ⟨rfl, rfl, rfl, rfl⟩⟩

theorem abides_completed (hs : k.state = .suspending) (date : String) :
    k.Abides (k.completed date) := by
  refine ⟨completed_generation k date, .inr ⟨hs, rfl⟩, ?_, fun h => absurd hs h⟩
  simp [completed, setState]

/-- A gate is struck, of a coordinator that waits for gates only while it suspends. -/
theorem abides_struck (hs : ∀ p, k.pending = some p → k.state = .suspending) (g : GateId)
    (date : String) : k.Abides (k.struck g date) := by
  by_cases hw : ∀ p, k.pending = some p → p.waitsFor g ≠ true
  · rw [struck_eq_self k g date hw]
    exact .refl k
  push Not at hw
  obtain ⟨p, hp, -⟩ := hw
  rcases struck_cases k g date with ⟨q, e⟩ | ⟨e, -⟩ <;> rw [e]
  · exact ⟨rfl, .inl rfl, le_rfl, fun h => absurd (hs p hp) h⟩
  · exact abides_completed (hs p hp) date

theorem Sound.abides_joined (h : k.Sound) (g : GateId) (name : String) (busy : Bool) :
    k.Abides (k.joined g name busy) := by
  refine ⟨rfl, .inl rfl, le_rfl, fun hs => ⟨?_, rfl, rfl, rfl⟩⟩
  unfold Coordinator.joined
  rw [h.pending_eq_none hs]
  rfl

theorem suspendedWith_version (k : Coordinator) (busy : List (GateId × String)) (date : String) :
    k.version < (k.suspendedWith busy date).version := by
  unfold suspendedWith completed closing
  split
  · simp only [setState, notify_version]
    omega
  · simp [setState]

theorem reopening_version (k : Coordinator) : k.reopening.version = k.version + 1 := by
  unfold reopening
  simp [setState]

/-- A coordinator has counted the calls that took it on: it runs after an even number of them. Each of
them was a transition. -/
structure Counted (k : Coordinator) : Prop where
  even : k.state = .running ↔ Even k.generation
  le_version : k.generation ≤ k.version

theorem counted_new : Counted {} := ⟨by simp, le_rfl⟩

theorem Counted.abides (h : k.Counted) (ha : k.Abides k') : k'.Counted := by
  refine ⟨?_, ?_⟩
  · rw [ha.running_iff, ha.generation]
    exact h.even
  · rw [ha.generation]
    exact h.le_version.trans ha.version

theorem Counted.suspendedWith (h : k.Counted) (hs : k.state = .running)
    (busy : List (GateId × String)) (date : String) : (k.suspendedWith busy date).Counted := by
  have heven : Even k.generation := h.even.1 hs
  have hv := suspendedWith_version k busy date
  have hle := h.le_version
  refine ⟨?_, ?_⟩
  · rw [suspendedWith_state, suspendedWith_generation, Nat.even_add_one]
    split <;> simp [heven]
  · rw [suspendedWith_generation]
    omega

theorem Counted.reopening (h : k.Counted) (hs : k.state ≠ .running) : k.reopening.Counted := by
  have hodd : ¬ Even k.generation := fun he => hs (h.even.2 he)
  refine ⟨?_, ?_⟩
  · rw [reopening_generation, Nat.even_add_one]
    exact iff_of_true rfl hodd
  · rw [reopening_generation, reopening_version]
    exact Nat.succ_le_succ h.le_version

end Coordinator

namespace World

/-- Nothing has happened to a coordinator but that its attempt to suspend may have become complete. -/
def Abides (c : CoordinatorId) (w w' : World) : Prop := (w.coordinator c).Abides (w'.coordinator c)

variable {w w' w'' : World} {c d : CoordinatorId} {k k' : Coordinator}

theorem Abides.trans (h : w.Abides c w') (h' : w'.Abides c w'') : w.Abides c w'' :=
  Coordinator.Abides.trans h h'

theorem abides_of_eq (h : w'.coordinators c = w.coordinators c) : w.Abides c w' := by
  unfold Abides coordinator
  rw [h]
  exact .refl _

/-- One coordinator has changed, and abides. -/
theorem abides_of_set (hk : w.coordinators d = some k) (h : k.Abides k')
    (hc : w'.coordinators = w.coordinators.set d k') : w.Abides c w' := by
  by_cases hcd : c = d
  · subst hcd
    have hk' : w'.coordinators c = some k' := by rw [hc, Table.set_self]
    unfold Abides
    rw [coordinator_eq hk, coordinator_eq hk']
    exact h
  · exact abides_of_eq (by rw [hc, Table.set_of_ne _ _ hcd])

theorem abides_setCoordinator (hk : w.coordinators d = some k) (h : k.Abides k') :
    w.Abides c (w.setCoordinator d k') := abides_of_set hk h rfl

theorem Rests.abides (h : w.Rests w') : w.Abides c w' := by
  rcases h.coordinators c with e | ⟨k, n, hk, -, e⟩
  · exact abides_of_eq e
  · unfold Abides
    rw [coordinator_eq hk, coordinator_eq e]
    exact Coordinator.Alike.abides ⟨_, _, _, _, rfl⟩

theorem abides_strike (hk : w.coordinators d = some k) (hs : k.Sound) (hkk : k.Abides k')
    (hp : k'.pending = k.pending) (hst : k'.state = k.state) (g : GateId) :
    w.Abides c (w.strike d k' g) := by
  refine abides_of_set hk (hkk.trans ?_) (strike_coordinators _ _ _ _)
  refine Coordinator.abides_struck (fun p hp' => ?_) g w.date
  rw [hst]
  exact hs.state_of_pending (hp ▸ hp')

theorem abides_addGate {g : GateId} {x : Gate} (hk : w.coordinators d = some k) (hs : k.Sound) :
    w.Abides c (w.addGate d k g x) := by
  by_cases hg : g ∈ k.gates
  · rw [addGate_of_mem hg]
    exact abides_of_eq rfl
  · exact abides_of_set hk (hs.abides_joined g x.name _) (addGate_coordinators hg hs)

end World

namespace Machine

open World
open scoped List

variable {w w₀ : World} {s : List Activation} {c d : CoordinatorId} {k : Coordinator} {after : After}
  {move : Move} {op : Op} {m : Machine}

/-! ## What leaves an attempt alone -/

theorem deliver_abides : w.Abides c (deliver w s d after).world := by
  unfold deliver
  split
  · exact (finish_rests w s after).abides
  · rename_i k hk
    have hset (o : List Notification) (b : Bool) :
        w.Abides c (w.setCoordinator d { k with outbox := o, dispatching := b }) :=
      abides_setCoordinator hk (Coordinator.Alike.abides ⟨_, _, _, _, rfl⟩)
    split
    · exact (hset k.outbox false).trans (finish_rests _ s after).abides
    · rename_i n rest _
      exact (hset rest k.dispatching).trans (abides_of_eq rfl)

theorem dispatch_abides : w.Abides c (dispatch w s d after).world := by
  unfold dispatch
  split
  · exact (finish_rests w s after).abides
  · rename_i k hk
    split
    · exact (finish_rests w s after).abides
    · have hset : w.Abides c (w.setCoordinator d { k with dispatching := true }) :=
        abides_setCoordinator hk (Coordinator.Alike.abides ⟨_, _, _, _, rfl⟩)
      exact hset.trans deliver_abides

theorem nextHook_abides {h : Hook} {others : List Listener} :
    w.Abides c (nextHook w s d h others after).world := by
  unfold nextHook
  split
  · exact deliver_abides
  · exact abides_of_eq rfl

/-- A callback may complete the attempt that it reports to, and does nothing to any other. -/
theorem fire_abides (hw : w.Sound) (g : GateId) (callback : Option DrainCallback) (after : After) :
    w.Abides c (fire w s g callback after).world := by
  rcases fire_cases w s g callback after with
    ⟨e, -⟩ | ⟨cb, -, ⟨code, -, e⟩ | ⟨d, n, k, -, hk, -, e⟩ | ⟨d, n, -, -, e⟩⟩ <;> rw [e]
  · exact (finish_rests w s after).abides
  · exact abides_of_eq rfl
  · set v : World := w.note (.fired g cb)
    have hv : w.Abides c v := abides_of_eq rfl
    have hks : k.Sound := (hw.coordinators d k hk).sound
    have hd : v.Abides c (v.drained d k n g) := by
      rcases drained_cases v d k n g with ⟨e, -⟩ | ⟨e, -⟩ <;> rw [e]
      · exact abides_strike (w := v) hk hks (.refl k) rfl rfl g
      · exact abides_of_eq rfl
    exact (hv.trans hd).trans dispatch_abides
  · have hv : w.Abides c (w.note (.fired g cb)) := abides_of_eq rfl
    exact hv.trans (finish_rests _ s after).abides

/-! ## What takes a coordinator on -/

/-- Of a coordinator that has changed the hooks are delivered. -/
theorem abides_dispatch_set {v : World} (hc : v.coordinators = w.coordinators.set c k) :
    k.Abides ((dispatch v s c after).world.coordinator c) := by
  have hd : v.Abides c (dispatch v s c after).world := dispatch_abides
  have hv : v.coordinator c = k := coordinator_eq (by rw [hc, Table.set_self])
  unfold World.Abides at hd
  rwa [hv] at hd

theorem dispatch_abides_of_ne {v : World} (hc : v.coordinators = w.coordinators.set d k)
    (hcd : c ≠ d) : w.Abides c (dispatch v s d after).world := by
  have hv : w.Abides c v := abides_of_eq (by rw [hc, Table.set_of_ne _ _ hcd])
  exact hv.trans dispatch_abides

/-- **A change leaves a coordinator in its attempt**, or belongs to a call that suspends it while it runs
or resumes it while it does not. -/
theorem Change.passes {a b : Scene} (hab : Change w₀ move a b) (hw : a.1.Sound) (c : CoordinatorId) :
    a.1.Abides c b.1 ∨
      ((a.1.coordinator c).state = .running ∧ move.Suspends w₀ c ∧ ∃ busy date,
        ((a.1.coordinator c).suspendedWith busy date).Abides (b.1.coordinator c)) ∨
      ((a.1.coordinator c).state ≠ .running ∧ move.Resumes w₀ c ∧
        (a.1.coordinator c).reopening.Abides (b.1.coordinator c)) := by
  cases hab with
  | @suspended w s d k after hk _ hs hm =>
    by_cases hcd : c = d
    · subst hcd
      rw [coordinator_eq hk]
      exact .inr (.inl ⟨hs, hm, _, _, abides_dispatch_set (suspend_coordinators w c k)⟩)
    · exact .inl (dispatch_abides_of_ne (suspend_coordinators w d k) hcd)
  | @resumed w s d k after hm hk _ hs =>
    by_cases hcd : c = d
    · subst hcd
      rw [coordinator_eq hk]
      exact .inr (.inr ⟨hs, hm, abides_dispatch_set (resume_coordinators w c k)⟩)
    · exact .inl (dispatch_abides_of_ne (resume_coordinators w d k) hcd)
  | @turnedAway w s g x after hx _ =>
    rw [turnAway_eq hx (hw.gates g x hx)]
    exact .inl (fire_abides hw g none after)
  | @returned w s g x p y callback after hx hr =>
    have hname := (Gate.release?_cases (hw.gates g x hx) hr).2.2.2.1
    have hset : (w.setGate g y).Sound := hw.changeGate hx ((hw.gates g x hx).release hr) hname rfl rfl
    have hv : w.Abides c ((w.setGate g y).note (.returned g p)) := abides_of_eq rfl
    exact .inl (hv.trans (fire_abides (hset.alike (alike_note _ _)) g callback after))
  | @coordinatorMade s d hd =>
    -- one that is new is as if nothing had happened to it
    refine .inl ?_
    by_cases hcd : c = d
    · subst hcd
      have hc : (w₀.setCoordinator c {}).coordinator c = {} := coordinator_eq (Table.set_self _ _ _)
      unfold World.Abides
      rw [coordinator_eq_new hd, hc]
      exact .refl _
    · exact abides_of_eq (Table.set_of_ne _ _ hcd)
  | gateAdded _ hk _ _ _ => exact .inl (abides_addGate hk (hw.coordinators _ _ hk).sound)
  | @gateRegistered w s d k g name _ hk _ _ =>
    have hv : w.Abides c (w.setGate g { name }) := abides_of_eq rfl
    exact .inl (hv.trans (abides_addGate hk (hw.coordinators _ _ hk).sound))
  | @gateRemoved w s d k g after _ hk _ =>
    have hkk : k.Abides { k with gates := k.gates.filter (· ≠ g) } :=
      ⟨rfl, .inl rfl, le_rfl, fun _ => ⟨rfl, rfl, rfl, rfl⟩⟩
    have hstrike : w.Abides c (w.removeGate d k g) :=
      abides_strike hk (hw.coordinators d k hk).sound hkk rfl rfl g
    exact .inl (hstrike.trans dispatch_abides)
  | subscribed hk | unsubscribed hk | shared hk _ | dropped hk =>
    exact .inl (abides_setCoordinator hk (Coordinator.Alike.abides ⟨_, _, _, _, rfl⟩))
  | hookLeft => exact .inl nextHook_abides
  | finished => exact .inl (finish_rests _ _ _).abides
  | gateMade | letIn | closed | reopened | declined | callbackLeft | handlerEntered | handlerLeft
  | alerted => exact .inl (abides_of_eq rfl)
  | aside _ _ hc _ => exact .inl (abides_of_eq (by rw [hc]))

/-! ## Moves -/

/-- The move takes the coordinator on: it is a call that suspends it while it runs, or resumes it while it
does not. -/
def Move.Turns (w : World) (move : Move) (c : CoordinatorId) : Prop :=
  (w.coordinator c).state = .running ∧ move.Suspends w c ∨
    (w.coordinator c).state ≠ .running ∧ move.Resumes w c

/-- **A move that does not take a coordinator on** leaves it in its attempt. -/
theorem step_abides (hw : m.world.Sound) (h : ¬ move.Turns m.world c) :
    m.world.Abides c (step m move).world := by
  refine ((step_changes m move).keep (P := fun a => a.1.Sound ∧ m.world.Abides c a.1) ?_
    ⟨hw, abides_of_eq rfl⟩).2
  rintro a b hab ⟨ha, habides⟩
  refine ⟨hab.sound ha, ?_⟩
  -- until now it runs just if it ran when the move began
  have hrun := Coordinator.Abides.running_iff habides
  rcases hab.passes ha c with hb | ⟨hs, hm, -⟩ | ⟨hs, hm, -⟩
  · exact habides.trans hb
  · exact absurd (.inl ⟨hrun.1 hs, hm⟩) h
  · exact absurd (.inr ⟨fun hs' => hs (hrun.2 hs'), hm⟩) h

/-- A service finds its coordinator. -/
theorem coordinatorOf_eq {x : ServiceId} (hx : (w.services x).map Service.coordinator = some c)
    (hk : w.coordinators c = some k) : w.coordinatorOf x = some (c, k) := by
  obtain ⟨y, hy, rfl⟩ := Option.map_eq_some_iff.1 hx
  unfold World.coordinatorOf
  simp [hy, hk]

theorem command_eq {x : ServiceId} (hx : (w.services x).map Service.coordinator = some c)
    (hk : w.coordinators c = some k) (head : Bool) :
    command w s x .suspend head = suspend w s c (.respond 202 c) ∧
      command w s x .resume head = resume w s c (.respond 200 c) := by
  unfold command suspendService resumeService
  rw [coordinatorOf_eq hx hk]
  exact ⟨rfl, rfl⟩

/-- Whatever suspends a coordinator does the same to it. -/
theorem perform_of_suspends (ho : op.suspends w = true) (hc : op.coordinator? w = some c)
    (hk : w.coordinators c = some k) :
    ∃ v after, perform w s op = suspend v s c after ∧ w.Rests v ∧ v.coordinators c = some k := by
  cases op with
  | suspend d =>
    cases hc
    exact ⟨w, _, rfl, .refl w, hk⟩
  | suspendService x =>
    refine ⟨w, .snapshot c, ?_, .refl w, hk⟩
    simp only [perform, suspendService, coordinatorOf_eq hc hk]
  | startDrain d x timeout =>
    obtain ⟨y, hy, rfl⟩ := Option.map_eq_some_iff.1 hc
    -- the drain holds its service before it suspends
    set v : World := w.setService x { y with handles := y.handles + 1 } with hv
    have hx : (v.services x).map Service.coordinator = some y.coordinator := by
      rw [hv]
      simp [World.setService]
    refine ⟨v, .firstPoll d x timeout, ?_, ⟨rfl, fun _ => rfl, fun _ => .inl rfl⟩, hk⟩
    have hd : w.drains d = none := Option.isNone_iff_eq_none.1 ho
    simp only [perform, startDrain, hd, hy, suspendService]
    rw [← hv, coordinatorOf_eq hx hk]
  | request site q p =>
    simp only [Op.suspends] at ho
    split at ho
    · rename_i x hr
      simp only [Op.coordinator?, hr] at hc
      refine ⟨w, .respond 202 c, ?_, .refl w, hk⟩
      simp only [perform, request, hr]
      exact (command_eq hc hk _).1
    · cases ho
  | _ => cases ho

/-- Whatever resumes a coordinator does the same to it. -/
theorem perform_of_resumes (ho : op.resumes = true) (hc : op.coordinator? w = some c)
    (hk : w.coordinators c = some k) : ∃ after, perform w s op = resume w s c after := by
  cases op with
  | resume d =>
    cases hc
    exact ⟨_, rfl⟩
  | resumeService x =>
    refine ⟨.snapshot c, ?_⟩
    simp only [perform, resumeService, coordinatorOf_eq hc hk]
  | request site q p =>
    simp only [Op.resumes] at ho
    split at ho
    · rename_i x hr
      simp only [Op.coordinator?, hr] at hc
      refine ⟨.respond 200 c, ?_⟩
      simp only [perform, request, hr]
      exact (command_eq hc hk _).2
    · cases ho
  | _ => cases ho

theorem step_call (ha : m.signal ≠ .aborted) (op : Op) :
    step m (.call op) = perform m.world m.stack op := by
  unfold step
  rw [if_neg ha]

/-- **A call that takes a coordinator on** is counted, and moves it to the other side. -/
theorem step_turns (hk : m.world.coordinators c = some k) (ha : m.signal ≠ .aborted)
    (h : move.Turns m.world c) :
    ((step m move).world.coordinator c).generation = k.generation + 1 ∧
      (((step m move).world.coordinator c).state = .running ↔ k.state ≠ .running) := by
  unfold Move.Turns at h
  rw [coordinator_eq hk] at h
  rcases h with ⟨hs, op, rfl, hc, ho⟩ | ⟨hs, op, rfl, hc, ho⟩
  · obtain ⟨v, after, e, -, hv⟩ := perform_of_suspends (s := m.stack) ho hc hk
    have hsuspend : (step m (.call op)).world = (dispatch (v.suspend c k) m.stack c after).world := by
      rw [step_call ha, e]
      simp only [suspend, hv, hs, if_true]
    rw [hsuspend]
    have hb : (k.suspendedWith (v.busy k.gates) v.date).Abides
        ((dispatch (v.suspend c k) m.stack c after).world.coordinator c) :=
      abides_dispatch_set (suspend_coordinators v c k)
    refine ⟨by rw [hb.generation, Coordinator.suspendedWith_generation], ?_⟩
    rw [hb.running_iff, Coordinator.suspendedWith_state]
    split <;> simp [hs]
  · obtain ⟨after, e⟩ := perform_of_resumes (s := m.stack) ho hc hk
    have hresume : (step m (.call op)).world =
        (dispatch (m.world.resume c k) m.stack c after).world := by
      rw [step_call ha, e]
      simp only [resume, hk, hs, if_false]
    rw [hresume]
    have hb : k.reopening.Abides
        ((dispatch (m.world.resume c k) m.stack c after).world.coordinator c) :=
      abides_dispatch_set (resume_coordinators m.world c k)
    refine ⟨by rw [hb.generation, Coordinator.reopening_generation], ?_⟩
    rw [hb.running_iff]
    simp [hs]

/-- **A call that would take a coordinator where it is** changes no gate and no coordinator, and calls no
hook. -/
theorem step_idle (hk : m.world.coordinators c = some k)
    (h : move.Suspends m.world c ∧ k.state ≠ .running ∨ move.Resumes m.world c ∧ k.state = .running) :
    (step m move).stack = m.stack ∧ m.world.Rests (step m move).world := by
  by_cases ha : m.signal = .aborted
  · unfold step
    rw [if_pos ha]
    exact ⟨rfl, .refl _⟩
  rcases h with ⟨⟨op, rfl, hc, ho⟩, hs⟩ | ⟨⟨op, rfl, hc, ho⟩, hs⟩
  · obtain ⟨v, after, e, hrests, hv⟩ := perform_of_suspends (s := m.stack) ho hc hk
    rw [step_call ha, e]
    simp only [suspend, hv, hs, if_false]
    exact ⟨finish_stack _ _ _, hrests.trans (finish_rests _ _ _)⟩
  · obtain ⟨after, e⟩ := perform_of_resumes (s := m.stack) ho hc hk
    rw [step_call ha, e]
    simp only [resume, hk, hs, if_true]
    exact ⟨finish_stack _ _ _, finish_rests _ _ _⟩

/-! ## Runs -/

theorem run_counted (moves : List Move) (c : CoordinatorId) :
    ((run {} moves).world.coordinator c).Counted := by
  refine (run_keep (P := fun a => a.1.Sound ∧ (a.1.coordinator c).Counted) (m := {}) ?_
    ⟨sound_new, Coordinator.counted_new⟩ moves).2
  rintro w₀ move a b hab ⟨ha, hc⟩
  refine ⟨hab.sound ha, ?_⟩
  rcases hab.passes ha c with hb | ⟨hs, -, busy, date, hb⟩ | ⟨hs, -, hb⟩
  · exact hc.abides hb
  · exact (hc.suspendedWith hs busy date).abides hb
  · exact (hc.reopening hs).abides hb

theorem run_generation_le (hw : m.world.Sound) (moves : List Move) (c : CoordinatorId) :
    (m.world.coordinator c).generation ≤ ((run m moves).world.coordinator c).generation := by
  refine (run_keep (P := fun a =>
    a.1.Sound ∧ (m.world.coordinator c).generation ≤ (a.1.coordinator c).generation) ?_
    ⟨hw, le_rfl⟩ moves).2
  rintro w₀ move a b hab ⟨ha, hle⟩
  refine ⟨hab.sound ha, hle.trans ?_⟩
  rcases hab.passes ha c with hb | ⟨-, -, busy, date, hb⟩ | ⟨-, -, hb⟩
  · rw [hb.generation]
  · rw [hb.generation, Coordinator.suspendedWith_generation]
    exact Nat.le_succ _
  · rw [hb.generation, Coordinator.reopening_generation]
    exact Nat.le_succ _

/-- **Moves of which none takes a coordinator on** leave it in its attempt, however many there are. -/
theorem run_abides (before moves : List Move)
    (h : ∀ pre move, pre ++ [move] <+: moves → ¬ move.Turns (run {} (before ++ pre)).world c) :
    (run {} before).world.Abides c (run {} (before ++ moves)).world := by
  induction moves using List.reverseRecOn with
  | nil =>
    rw [List.append_nil]
    exact abides_of_eq rfl
  | append_singleton moves move ih =>
    have hinit : (run {} before).world.Abides c (run {} (before ++ moves)).world :=
      ih fun pre x hx => h pre x (hx.trans (List.prefix_append _ _))
    have hlast : ¬ move.Turns (run {} (before ++ moves)).world c := h moves move List.prefix_rfl
    rw [← List.append_assoc, run_snoc]
    exact hinit.trans (step_abides (run_sound _) hlast)

/-- **The generation counts the calls that take a coordinator on.** In any run it is even just while the
coordinator runs, there have been as many transitions at least, and it never falls. A call that suspends
the coordinator while it runs, or resumes it while it does not, takes it to the other side and adds one.
Without such a call, whatever else is done and however late gates report, it is in the attempt in which
it was, which may have become complete, and one that was running or suspended has not changed. The
other calls that suspend or resume it change no gate and no coordinator, and call no hook. -/
theorem generation_exact (moves : List Move) (c : CoordinatorId) :
    let m := run {} moves
    let k := m.world.coordinator c
    (k.state = .running ↔ Even k.generation) ∧
      k.generation ≤ (transitions (m.world.history c)).length ∧
      (∀ pre, pre <+: moves → ((run {} pre).world.coordinator c).generation ≤ k.generation) ∧
      (∀ move, m.world.coordinators c ≠ none → m.signal ≠ .aborted → move.Turns m.world c →
        let k' := (step m move).world.coordinator c
        k'.generation = k.generation + 1 ∧ (k'.state = .running ↔ k.state ≠ .running)) ∧
      (∀ more, (∀ pre move, pre ++ [move] <+: more → ¬ move.Turns (run m pre).world c) →
        k.Abides ((run m more).world.coordinator c)) ∧
      ∀ move, m.world.coordinators c ≠ none →
        move.Suspends m.world c ∧ k.state ≠ .running ∨ move.Resumes m.world c ∧ k.state = .running →
        (step m move).stack = m.stack ∧ m.world.Rests (step m move).world := by
  intro m k
  have hcounted : k.Counted := run_counted moves c
  have hledger : Ledger (m.world.history c) k (owed c m.stack) := (run_told moves c).ledger
  refine ⟨hcounted.even, ?_, ?_, fun move hk ha h => ?_, fun more h => ?_, fun move hk h => ?_⟩
  · rw [← hledger.version]
    exact hcounted.le_version
  · rintro pre ⟨more, rfl⟩
    have hle := run_generation_le (m := run {} pre) (run_sound pre) more c
    rwa [← run_append] at hle
  · obtain ⟨l, hl⟩ := Option.ne_none_iff_exists'.1 hk
    have hkl : k = l := coordinator_eq hl
    rw [hkl]
    exact step_turns hl ha h
  · have habides := run_abides (c := c) moves more fun pre move hpre => by
      rw [run_append]
      exact h pre move hpre
    rwa [run_append] at habides
  · obtain ⟨l, hl⟩ := Option.ne_none_iff_exists'.1 hk
    have hkl : k = l := coordinator_eq hl
    rw [hkl] at h
    exact step_idle hl h

/-- A gate that is busy is unregistered, which completes the suspend. It reports only when the coordinator
has been resumed and suspends again, for another gate. -/
theorem generation_exact_late :
    let c : CoordinatorId := ⟨0⟩
    let p : Permit := ⟨⟨⟨2, by decide⟩⟩, ⟨⟨0, by decide⟩⟩⟩
    let q : Permit := ⟨⟨⟨3, by decide⟩⟩, ⟨⟨1, by decide⟩⟩⟩
    let moves : List Move := [.call (.newCoordinator c), .call (.registerGate c p.gate "a"),
      .call (.registerGate c q.gate "b"), .call (.acquire p.gate p.id), .call (.suspend c),
      .call (.removeGate c p.gate), .call (.resume c), .call (.acquire q.gate q.id),
      .call (.suspend c)]
    let k := (run {} moves).world.coordinator c
    let late := (run (run {} moves) [.call (.release p)]).world.coordinator c
    let resumed := (step (run {} moves) (.call (.resume c))).world.coordinator c
    k.state = .suspending ∧ k.generation = 3 ∧ late.generation = 3 ∧ late.state ≠ .running ∧
      resumed.generation = 4 ∧ resumed.state = .running := by
  intro c p q moves k late resumed
  have hs : ((run {} moves).world.coordinator c).state = .suspending := by decide +kernel
  have hn : ((run {} moves).world.coordinator c).generation = 3 := by decide +kernel
  have hthere : (run {} moves).world.coordinators c ≠ none := by decide +kernel
  have hlive : (run {} moves).signal ≠ .aborted := by decide +kernel
  obtain ⟨-, -, -, hturns, habides, -⟩ := generation_exact moves c
  -- to give back a permit is no call on the coordinator
  have hrelease (pre : List Move) (move : Move) (hpre : pre ++ [move] <+: [.call (.release p)]) :
      ¬ move.Turns (run (run {} moves) pre).world c := by
    obtain rfl : move = .call (.release p) := List.mem_singleton.1 (hpre.subset (by simp))
    rintro (⟨-, op, h, hc, -⟩ | ⟨-, op, h, hc, -⟩)
    · cases h
      cases hc
    · cases h
      cases hc
  have hlate : ((run {} moves).world.coordinator c).Abides late := habides _ hrelease
  have hresume : Move.Turns (run {} moves).world (.call (.resume c)) c :=
    .inr ⟨by rw [hs]; decide, _, rfl, rfl, rfl⟩
  obtain ⟨hn', hs'⟩ := hturns _ hthere hlive hresume
  refine ⟨hs, hn, hlate.generation.trans hn, ?_, hn'.trans (by rw [hn]), hs'.2 ?_⟩
  · rw [ne_eq, hlate.running_iff, hs]
    decide
  · rw [hs]
    decide

end Machine

end Sluice
