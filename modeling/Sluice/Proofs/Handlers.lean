import Sluice.Proofs.Performs
import Sluice.Proofs.Services

/-!
# Requests that are under way

A request that has been let in is with its handler, which runs, or it waits for that to go on. What is done
with gates, coordinators, services and drains moves no request.

* `handlers`: the requests whose handlers run. `Machine.Sits`: an operation moves no request.
* `Op.isRequest`: the operations that are about requests. `perform_sits`: **all others move none**.
* `Machine.Ends`: the moves that end a request: its handler answers or panics, or it is dropped.
* `Machine.Shift`: what a move can do with requests. `step_shifts`: **it moves one at most**.
-/

namespace Sluice

/-- The requests whose handlers run, innermost first. -/
def handlers (s : List Activation) : List Admission :=
  s.filterMap fun
    | .handler a => some a
    | _ => none

/-- The operations that are about requests. -/
def Op.isRequest : Op → Bool
  | .request .. | .finishRequest _ | .cancelRequest _ => true
  | _ => false

theorem mem_handlers {s : List Activation} {a : Admission} : a ∈ handlers s ↔ .handler a ∈ s := by
  unfold handlers
  rw [List.mem_filterMap]
  constructor
  · rintro ⟨b, hb, hba⟩
    cases b with
    | handler b =>
      cases hba
      exact hb
    | _ => cases hba
  · intro ha
    exact ⟨_, ha, rfl⟩

namespace World

variable {w : World} {c : CoordinatorId} {k : Coordinator} {g : GateId} {x : Gate} {p : PermitId}

theorem suspend_waiting (w : World) (c : CoordinatorId) (k : Coordinator) :
    (w.suspend c k).waiting = w.waiting :=
  congrArg (fun r => r.2.2.2.1) (suspend_remainder w c k)

theorem resume_waiting (w : World) (c : CoordinatorId) (k : Coordinator) :
    (w.resume c k).waiting = w.waiting :=
  congrArg (fun r => r.2.2.2.1) (resume_remainder w c k)

theorem strike_waiting (w : World) (c : CoordinatorId) (k : Coordinator) (g : GateId) :
    (w.strike c k g).waiting = w.waiting := by
  rcases strike_cases w c k g with ⟨h, -⟩ | ⟨h, -⟩ <;> rw [h] <;> rfl

theorem drained_waiting (w : World) (c : CoordinatorId) (k : Coordinator) (n : Nat) (g : GateId) :
    (w.drained c k n g).waiting = w.waiting := by
  rcases drained_cases w c k n g with ⟨h, -⟩ | ⟨h, -⟩ <;> rw [h]
  exact strike_waiting w c k g

theorem addGate_waiting (w : World) (c : CoordinatorId) (k : Coordinator) (g : GateId) (x : Gate) :
    (w.addGate c k g x).waiting = w.waiting := by
  unfold World.addGate
  split
  · rfl
  · split
    · simp only
      split
      · rfl
      · split <;> rfl
    · rfl

theorem release_waiting (w : World) (g : GateId) (x : Gate) (p : PermitId) :
    (w.release g x p).1.waiting = w.waiting := by
  unfold World.release
  split <;> rfl

theorem drop_waiting (w : World) (g : GateId) (x : Gate) (p : PermitId) :
    (w.drop g x p).1.waiting = w.waiting := by
  have hr := release_waiting w g x p
  unfold World.drop
  split
  · rename_i v callback hv
    rw [hv] at hr
    exact hr
  · rename_i v e hv
    rw [hv] at hr
    exact hr

theorem dropCoordinator_waiting (w : World) (c : CoordinatorId) :
    (w.dropCoordinator c).waiting = w.waiting := by
  unfold dropCoordinator
  split <;> rfl

theorem dropService_waiting (w : World) (x : ServiceId) : (w.dropService x).waiting = w.waiting := by
  unfold dropService
  split
  · rfl
  · simp only
    split
    · exact dropCoordinator_waiting _ _
    · rfl

theorem expire_waiting (w : World) (k : Coordinator) (d : Drain) : (w.expire k d).1.waiting = w.waiting := by
  unfold expire
  -- the alerts are raised one by one, each in the world that the last has left
  suffices h : ∀ (l : List (String × Int)) (v : World),
      (l.foldl (fun w x => w.alert (.stillBusy x.1 x.2)) v).waiting = v.waiting from h _ w
  intro l
  induction l with
  | nil => exact fun _ => rfl
  | cons y l ih => exact fun v => ih (v.alert _)

theorem poll_waiting (w : World) (k : Coordinator) (d : Drain) : (w.poll k d).1.waiting = w.waiting := by
  unfold poll
  split
  · rfl
  · split
    · exact expire_waiting w k d
    · rfl

end World

namespace Machine

open Http World

/-- An operation that is called from code moves no request. -/
structure Sits (w : World) (s : List Activation) (m : Machine) : Prop where
  waiting : m.world.waiting = w.waiting
  handlers : handlers m.stack = handlers s

variable {w v : World} {s : List Activation} {c : CoordinatorId} {after : After} {m : Machine} {op : Op}

theorem Sits.of_waiting (h : Sits v s m) (hw : v.waiting = w.waiting) : Sits w s m :=
  ⟨h.waiting.trans hw, h.handlers⟩

/-! ## Into a caller's code and back -/

theorem finish_sits (w : World) (s : List Activation) (after : After) : Sits w s (finish w s after) := by
  refine ⟨?_, by rw [finish_stack]⟩
  unfold finish
  split
  · rfl
  · split <;> rfl
  · split <;> rfl
  · rename_i d x timeout
    unfold firstPoll
    split
    · rfl
    · rename_i k _
      have hp := poll_waiting w k ⟨x, timeout, w.clock + timeout.toNanos⟩
      simp only
      split
      · rename_i u hu
        rw [hu] at hp
        exact hp
      · rename_i u o _ hu
        rw [hu] at hp
        exact (dropService_waiting u x).trans hp
  · rfl

theorem enterHook_sits (w : World) (s : List Activation) (c : CoordinatorId) (h : Hook) (l : Listener)
    (others : List Listener) (after : After) : Sits w s (enterHook w s c h l others after) := ⟨rfl, rfl⟩

theorem deliver_sits : Sits w s (deliver w s c after) := by
  unfold deliver
  split
  · exact finish_sits w s after
  · split
    · exact (finish_sits _ s after).of_waiting rfl
    · exact (enterHook_sits _ s c _ _ _ after).of_waiting rfl

theorem dispatch_sits : Sits w s (dispatch w s c after) := by
  unfold dispatch
  split
  · exact finish_sits w s after
  · split
    · exact finish_sits w s after
    · exact deliver_sits.of_waiting rfl

theorem nextHook_sits {h : Hook} {others : List Listener} : Sits w s (nextHook w s c h others after) := by
  unfold nextHook
  split
  · exact deliver_sits
  · exact enterHook_sits w s c h _ _ after

theorem fire_sits {g : GateId} {callback : Option DrainCallback} : Sits w s (fire w s g callback after) := by
  rcases fire_cases w s g callback after with
    ⟨h, -⟩ | ⟨cb, -, ⟨code, -, h⟩ | ⟨c, n, k, -, -, -, h⟩ | ⟨c, n, -, -, h⟩⟩ <;> rw [h]
  · exact finish_sits w s after
  · exact ⟨rfl, rfl⟩
  · exact dispatch_sits.of_waiting (drained_waiting _ _ _ _ _)
  · exact (finish_sits _ s after).of_waiting rfl

/-! ## Operations -/

theorem giveBack_sits (g : GateId) (p : PermitId) : Sits w s (giveBack w s g p) := by
  unfold giveBack
  split
  · exact ⟨rfl, rfl⟩
  · rename_i x _
    have hr := release_waiting w g x p
    split
    · rename_i u callback hu
      rw [hu] at hr
      exact fire_sits.of_waiting hr
    · rename_i u e hu
      rw [hu] at hr
      exact ⟨hr, rfl⟩

theorem letGo_sits (p : Permit) : Sits w s (letGo w s p after) := by
  unfold letGo
  split
  · exact finish_sits w s after
  · exact fire_sits.of_waiting (drop_waiting _ _ _ _)

theorem respond_sits (p : Permit) (r : Response) : Sits w s (respond w s p r) := by
  unfold respond
  split
  · exact ⟨rfl, rfl⟩
  · rename_i x _
    have hr := release_waiting w p.gate x p.id
    split
    · rename_i u callback hu
      rw [hu] at hr
      exact fire_sits.of_waiting hr
    · rename_i u e hu
      rw [hu] at hr
      exact ⟨hr, rfl⟩

theorem releaseVia_sits (g : GateId) (p : Permit) : Sits w s (releaseVia w s g p) := by
  unfold releaseVia
  split
  · split
    · exact giveBack_sits _ _
    · exact (letGo_sits _).of_waiting rfl
  · exact ⟨rfl, rfl⟩

theorem releaseTicket_sits (g : GateId) (t : Ticket) : Sits w s (releaseTicket w s g t) := by
  unfold releaseTicket
  split
  · exact ⟨rfl, rfl⟩
  · split
    · exact giveBack_sits _ _
    · exact ⟨rfl, rfl⟩

theorem suspend_sits : Sits w s (suspend w s c after) := by
  unfold suspend
  split
  · exact ⟨rfl, rfl⟩
  · split
    · exact dispatch_sits.of_waiting (suspend_waiting _ _ _)
    · exact finish_sits w s after

theorem resume_sits : Sits w s (resume w s c after) := by
  unfold resume
  split
  · exact ⟨rfl, rfl⟩
  · split
    · exact finish_sits w s after
    · exact dispatch_sits.of_waiting (resume_waiting _ _ _)

theorem suspendService_sits (x : ServiceId) (after : CoordinatorId → After) :
    Sits w s (suspendService w s x after) := by
  unfold suspendService
  split
  · exact ⟨rfl, rfl⟩
  · exact suspend_sits

theorem resumeService_sits (x : ServiceId) (after : CoordinatorId → After) :
    Sits w s (resumeService w s x after) := by
  unfold resumeService
  split
  · exact ⟨rfl, rfl⟩
  · exact resume_sits

theorem pollAt_sits (d : DrainId) (deadline : Drain → Nat) (late : World → DrainError → World)
    (hlate : ∀ v e, (late v e).waiting = v.waiting) : Sits w s (pollAt w s d deadline late) := by
  unfold pollAt
  split
  · exact ⟨rfl, rfl⟩
  rename_i x _
  split
  · exact ⟨rfl, rfl⟩
  rename_i k _
  have hp := poll_waiting w k { x with deadline := deadline x }
  -- the drain is over: it is forgotten and lets go of its service
  have hend (u : World) (o : DrainOutcome) (hu : u.waiting = w.waiting) :
      Sits w s (reply ({ u with drains := u.drains.erase d }.dropService x.service) s (.drain o)) :=
    ⟨(dropService_waiting _ _).trans hu, rfl⟩
  generalize w.poll k { x with deadline := deadline x } = po at hp ⊢
  obtain ⟨u, o⟩ := po
  cases o with
  | pending => exact ⟨hp, rfl⟩
  | drained => exact hend u _ hp
  | timedOut e => exact hend _ _ ((hlate u e).trans hp)

theorem shutdown_sits (x : ServiceId) (r : Reply) : Sits w s (shutdown w s x r) := by
  unfold shutdown
  split <;> exact ⟨rfl, rfl⟩

theorem command_sits (x : ServiceId) (o : Command) (head : Bool) : Sits w s (command w s x o head) := by
  unfold command
  split
  · exact ⟨rfl, rfl⟩
  · cases o with
    | health | state => exact ⟨rfl, rfl⟩
    | suspend => exact suspendService_sits x _
    | resume => exact resumeService_sits x _
    | shutdown => exact shutdown_sits x _

/-- **What is not about requests moves none.** -/
theorem perform_sits (hop : op.isRequest = false) : Sits w s (perform w s op) := by
  cases op with
  | acquire g p =>
    simp only [perform, acquire]
    split
    · split
      · exact ⟨rfl, rfl⟩
      · exact fire_sits.of_waiting rfl
    · exact ⟨rfl, rfl⟩
  | release p => exact giveBack_sits p.gate p.id
  | releaseVia g p => exact releaseVia_sits g p
  | drop p => exact letGo_sits p
  | releaseTicket g t => exact releaseTicket_sits g t
  | dropCoordinator c => exact ⟨dropCoordinator_waiting w c, rfl⟩
  | suspend c => exact suspend_sits
  | resume c => exact resume_sits
  | registerGate c g name =>
    simp only [perform, registerGate]
    split
    · exact ⟨addGate_waiting _ _ _ _ _, rfl⟩
    · exact ⟨rfl, rfl⟩
  | addGate c g =>
    simp only [perform, addGate]
    split
    · exact ⟨addGate_waiting _ _ _ _ _, rfl⟩
    · exact ⟨rfl, rfl⟩
  | removeGate c g =>
    simp only [perform, removeGate]
    split
    · exact ⟨rfl, rfl⟩
    · exact dispatch_sits.of_waiting (strike_waiting _ _ _ _)
  | addListener c l offer =>
    simp only [perform, addListener]
    split
    · exact ⟨rfl, rfl⟩
    · split <;> exact ⟨rfl, rfl⟩
  | dropService x => exact ⟨dropService_waiting w x, rfl⟩
  | suspendService x => exact suspendService_sits x _
  | resumeService x => exact resumeService_sits x _
  | shutdown x => exact shutdown_sits x _
  | startDrain d x timeout =>
    simp only [perform, startDrain]
    split
    · exact (suspendService_sits x _).of_waiting rfl
    · exact ⟨rfl, rfl⟩
  | pollDrain d => exact pollAt_sits d _ _ fun _ _ => rfl
  | giveUpDrain d => exact pollAt_sits d _ _ fun _ _ => rfl
  | cancelDrain d =>
    simp only [perform, cancelDrain]
    split
    · exact ⟨rfl, rfl⟩
    · exact ⟨dropService_waiting _ _, rfl⟩
  | newGate | beginDrain | reopen | newCoordinator | shareCoordinator | removeListener | newService =>
    simp only [perform, newGate, beginDrain, reopen, newCoordinator, shareCoordinator, removeListener,
      newService]
    split <;> exact ⟨rfl, rfl⟩
  | advance nanos => exact ⟨rfl, rfl⟩
  | request | finishRequest | cancelRequest => cases hop

/-! ## Moves -/

/-- The moves that end a request, the code that they go back to, and what is left to do then. -/
inductive Ends (m : Machine) (a : Admission) : Move → List Activation → After → Prop
  | answered {s r} (hs : m.stack = .handler a :: s) :
      Ends m a (.ret r) s (.reply (.response (a.edit.apply r)))
  | panicked {s payload} (hs : m.stack = .handler a :: s) : Ends m a (.panic payload) s (.raise payload)
  | cancelled {r} (hr : m.world.waiting r = some a) :
      Ends m a (.call (.cancelRequest r)) m.stack (.reply .done)

/-- A request is under way no longer. -/
inductive Drops (m : Machine) (a : Admission) (m' : Machine) : Prop
  | handler (hw : m'.world.waiting = m.world.waiting) (hh : handlers m.stack = a :: handlers m'.stack)
  | waiting (r : RequestId) (hr : m.world.waiting r = some a)
      (hw : m'.world.waiting = m.world.waiting.erase r) (hh : handlers m'.stack = handlers m.stack)

/-- A move that ends a request drops it. -/
theorem Ends.drops {a : Admission} {move : Move} (h : m.Ends a move s after) (hab : m.signal ≠ .aborted) :
    m.Drops a (step m move) := by
  unfold step
  rw [if_neg hab]
  cases h with
  | @answered _ r hs =>
    rw [hs]
    have hr := respond_sits (w := m.world) (s := s) a.permit (a.edit.apply r)
    exact .handler hr.waiting (by rw [hs]; exact congrArg (a :: ·) hr.handlers.symm)
  | @panicked _ payload hs =>
    rw [hs]
    have hr : Sits m.world s (letGo m.world s a.permit (.raise payload)) := letGo_sits _
    exact .handler hr.waiting (by rw [hs]; exact congrArg (a :: ·) hr.handlers.symm)
  | @cancelled r hr =>
    let w : World := { m.world with waiting := m.world.waiting.erase r }
    have hgo : Sits w m.stack (letGo w m.stack a.permit (.reply .done)) := letGo_sits _
    simp only [perform, cancelRequest, hr]
    exact .waiting r hr hgo.waiting hgo.handlers

/-- What a move does with requests. -/
inductive Shift (m : Machine) (move : Move) (m' : Machine) : Prop
  | sits (hs : Sits m.world m.stack m')
  | entered (a : Admission) (hi : m.world.issuer a.permit.id = none)
      (hi' : m'.world.issuer a.permit.id = some a.permit.gate) (hw : m'.world.waiting = m.world.waiting)
      (hh : handlers m'.stack = a :: handlers m.stack)
  | resumed (r : RequestId) (a : Admission) (hr : m.world.waiting r = some a)
      (hw : m'.world.waiting = m.world.waiting.erase r) (hh : handlers m'.stack = a :: handlers m.stack)
  | parked (r : RequestId) (a : Admission) (hr : m.world.waiting r = none)
      (hw : m'.world.waiting = m.world.waiting.set r a) (hh : handlers m.stack = a :: handlers m'.stack)
  | dropped (a : Admission) (hd : m.Drops a m') (he : ∃ t after, m.Ends a move t after)

theorem behindGate_shifts (m : Machine) (move : Move) (g : GateId) (l : Landing) (q : Request) (p : PermitId) :
    Shift m move (behindGate m.world m.stack g l q p) := by
  unfold behindGate
  split
  · rename_i hp
    split
    · split
      · exact .entered ⟨⟨p, _⟩, _, _⟩ hp (Table.set_self _ _ _) rfl rfl
      · exact .sits ((respond_sits _ _).of_waiting rfl)
    · exact .sits (fire_sits.of_waiting rfl)
  · exact .sits ⟨rfl, rfl⟩

theorem request_shifts (m : Machine) (site : Site) (q : Request) (p : PermitId) :
    Shift m (.call (.request site q p)) (request m.world m.stack site q p) := by
  unfold request
  split
  · exact .sits (command_sits _ _ _)
  · exact behindGate_shifts m _ _ _ _ _
  · exact .sits ⟨rfl, rfl⟩

/-- **What a move does with requests**: it moves one at most. -/
theorem step_shifts (m : Machine) (move : Move) : Shift m move (step m move) := by
  by_cases hab : m.signal = .aborted
  · rw [step_of_aborted hab]
    exact .sits ⟨rfl, rfl⟩
  have hend {a : Admission} {t : List Activation} {after : After} (he : m.Ends a move t after) :
      Shift m move (step m move) := .dropped a (he.drops hab) ⟨t, after, he⟩
  cases move with
  | call op =>
    cases hop : op.isRequest with
    | false =>
      rw [step_call hab]
      exact .sits (perform_sits hop)
    | true =>
      cases op with
      | request site q p =>
        rw [step_call hab]
        exact request_shifts m site q p
      | finishRequest r =>
        rw [step_call hab]
        cases hr : m.world.waiting r with
        | none =>
          simp only [perform, finishRequest, hr]
          exact .sits ⟨rfl, rfl⟩
        | some a =>
          simp only [perform, finishRequest, hr]
          exact .resumed r a hr rfl rfl
      | cancelRequest r =>
        cases hr : m.world.waiting r with
        | none =>
          rw [step_call hab]
          simp only [perform, cancelRequest, hr]
          exact .sits ⟨rfl, rfl⟩
        | some a => exact hend (.cancelled hr)
      | _ => cases hop
  | ret r =>
    cases hs : m.stack with
    | nil =>
      simp only [step, hab, if_false, hs, ret]
      exact .sits ⟨rfl, by rw [hs]⟩
    | cons b t =>
      cases b with
      | callback g code after =>
        have hf := finish_sits m.world t after
        simp only [step, hab, if_false, hs, ret]
        exact .sits ⟨hf.waiting, hf.handlers.trans (by rw [hs]; rfl)⟩
      | hook c h l others after =>
        have hn : Sits m.world t (nextHook m.world t c h others after) := nextHook_sits
        simp only [step, hab, if_false, hs, ret]
        exact .sits ⟨hn.waiting, hn.handlers.trans (by rw [hs]; rfl)⟩
      | handler a => exact hend (.answered hs)
  | panic payload =>
    cases hs : m.stack with
    | nil =>
      simp only [step, hab, if_false, hs, panic]
      exact .sits ⟨rfl, by rw [hs]⟩
    | cons b t =>
      cases b with
      | callback g code after =>
        simp only [step, hab, if_false, hs]
        cases after <;> exact .sits ⟨rfl, by rw [hs]; rfl⟩
      | hook c h l others after =>
        let v : World := m.world.alert (.listenerPanicked l.name h.name payload)
        have hn : Sits v t (nextHook v t c h others after) := nextHook_sits
        simp only [step, hab, if_false, hs]
        exact .sits ⟨hn.waiting, hn.handlers.trans (by rw [hs]; rfl)⟩
      | handler a => exact hend (.panicked hs)
  | park r =>
    simp only [step, hab, if_false]
    unfold park
    split
    · rename_i a t hs
      split
      · rename_i hr
        exact .parked r a hr rfl (by rw [hs]; rfl)
      · exact .sits ⟨rfl, by rw [hs]⟩
    · exact .sits ⟨rfl, rfl⟩

end Machine

end Sluice
