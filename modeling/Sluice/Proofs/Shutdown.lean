import Sluice.Proofs.Agreement
import Sluice.Proofs.Services

/-!
# Who asks for a shutdown

A service is asked to shut down by its user, or by an operator. Nothing else touches what it has been asked,
and nothing takes it back.

* `Http.Site.route_eq_command`: an operator's command is a matter of the method and of the path, letter for
  letter.
* `Move.AsksShutdown`: the two moves that ask a service.
* `World.KeepsShutdown`: a service is still there, and has been asked or not as before.
  `keepsShutdown_dropService` and the like: the operations on a world. `perform_keepsShutdown`,
  `step_keepsShutdown`: **no other move changes whether a service has been asked**.
* `step_shutdown`, `run_shutdown`: **what has been asked stays so**.
-/

namespace Sluice

namespace Http

theorem Command.ofPath?_path (o : Command) : Command.ofPath? o.path = some o := by cases o <;> decide

/-- **The path of a command is its own**, letter for letter. -/
theorem Command.ofPath?_eq_some {path : String} {o : Command} :
    Command.ofPath? path = some o ↔ path = o.path := by
  constructor
  · intro h
    have hpath := List.find?_some h
    exact (of_decide_eq_true hpath).symm
  · rintro rfl
    exact o.ofPath?_path

/-- **A request is a command** just if its path is that of the command, and its method one of those. -/
theorem Site.route_eq_command {site : Site} {q : Request} {x : ServiceId} {o : Command} :
    site.route q = .command x o ↔ site.service = some x ∧ q.path = o.path ∧ q.method ∈ o.methods := by
  unfold Site.route
  constructor
  · intro h
    split at h
    · rename_i y c hy hc
      split at h
      · rename_i hm
        cases h
        exact ⟨hy, Command.ofPath?_eq_some.1 hc, hm⟩
      · cases h
    · -- whatever answers for an application is no command
      repeat' split at h
      all_goals cases h
  · rintro ⟨hs, hp, hm⟩
    rw [hs, Command.ofPath?_eq_some.2 hp]
    exact if_pos hm

end Http

/-- The move asks a service to shut down: its user calls it, or an operator has posted. -/
def Machine.Move.AsksShutdown (z : ServiceId) (move : Machine.Move) : Prop :=
  move = .call (.shutdown z) ∨
    ∃ site p, site.service = some z ∧ move = .call (.request site ⟨"POST", "/shutdown"⟩ p)

namespace World

/-- A service is still there, and has been asked to shut down just if it had been. -/
def KeepsShutdown (z : ServiceId) (w w' : World) : Prop :=
  ∀ v, w.services z = some v → ∃ v', w'.services z = some v' ∧ v'.shutdown = v.shutdown

variable {z x : ServiceId} {w w' w'' : World}

theorem keepsShutdown_of_eq (h : w'.services = w.services) : w.KeepsShutdown z w' :=
  fun v hv => ⟨v, h ▸ hv, rfl⟩

theorem KeepsShutdown.refl (z : ServiceId) (w : World) : w.KeepsShutdown z w := keepsShutdown_of_eq rfl

theorem KeepsShutdown.trans (h : w.KeepsShutdown z w') (h' : w'.KeepsShutdown z w'') :
    w.KeepsShutdown z w'' := by
  intro v hv
  obtain ⟨v', hv', he⟩ := h v hv
  obtain ⟨v'', hv'', he'⟩ := h' v' hv'
  exact ⟨v'', hv'', he'.trans he⟩

/-- What has been done first was none of its business. -/
theorem KeepsShutdown.after_eq (h : w'.KeepsShutdown z w'') (hs : w'.services = w.services) :
    w.KeepsShutdown z w'' := (keepsShutdown_of_eq hs).trans h

theorem keepsShutdown_of_remainder (h : w'.remainder = w.remainder) : w.KeepsShutdown z w' :=
  keepsShutdown_of_eq (congrArg (·.2.1) h)

/-- It is another service that changes. -/
theorem keepsShutdown_setService_of_ne (hz : z ≠ x) (u : Service) : w.KeepsShutdown z (w.setService x u) :=
  fun v hv => ⟨v, (Table.set_of_ne _ _ hz).trans hv, rfl⟩

/-- A service changes, but not in what it has been asked. -/
theorem keepsShutdown_setService {u u' : Service} (hu : w.services x = some u)
    (hs : u'.shutdown = u.shutdown) : w.KeepsShutdown z (w.setService x u') := by
  intro v hv
  by_cases hz : z = x
  · subst hz
    cases hu.symm.trans hv
    exact ⟨u', Table.set_self _ _ _, hs⟩
  · exact keepsShutdown_setService_of_ne hz u' v hv

theorem keepsShutdown_dropCoordinator (w : World) (c : CoordinatorId) :
    w.KeepsShutdown z (w.dropCoordinator c) := by
  unfold dropCoordinator
  split <;> exact keepsShutdown_of_eq rfl

theorem keepsShutdown_dropService (w : World) (x : ServiceId) : w.KeepsShutdown z (w.dropService x) := by
  unfold dropService
  split
  · exact .refl z w
  · rename_i u hu
    have hset : w.KeepsShutdown z (w.setService x { u with handles := u.handles - 1 }) :=
      keepsShutdown_setService hu rfl
    simp only
    split
    · exact hset.trans (keepsShutdown_dropCoordinator _ _)
    · exact hset

theorem keepsShutdown_poll (w : World) (k : Coordinator) (d : Drain) : w.KeepsShutdown z (w.poll k d).1 := by
  have hexpire : w.KeepsShutdown z (w.expire k d).1 := by
    unfold expire
    -- one alert after another
    suffices h : ∀ (l : List (String × Int)) (v : World),
        v.KeepsShutdown z (l.foldl (fun w x => w.alert (.stillBusy x.1 x.2)) v) from h _ w
    intro l
    induction l with
    | nil => exact KeepsShutdown.refl z
    | cons a l ih => exact fun v => (ih _).after_eq rfl
  unfold poll
  split
  · exact .refl z w
  · split
    · exact hexpire
    · exact .refl z w

theorem keepsShutdown_release (w : World) (g : GateId) (y : Gate) (p : PermitId) :
    w.KeepsShutdown z (w.release g y p).1 := by
  unfold release
  split <;> exact keepsShutdown_of_eq rfl

theorem keepsShutdown_drop (w : World) (g : GateId) (y : Gate) (p : PermitId) :
    w.KeepsShutdown z (w.drop g y p).1 := by
  unfold drop release
  split <;> rename_i h <;> split at h <;> cases h <;> exact keepsShutdown_of_eq rfl

theorem keepsShutdown_strike (w : World) (c : CoordinatorId) (k : Coordinator) (g : GateId) :
    w.KeepsShutdown z (w.strike c k g) := by
  rcases strike_cases w c k g with ⟨h, -⟩ | ⟨h, -⟩ <;> rw [h] <;> exact keepsShutdown_of_eq rfl

theorem keepsShutdown_drained (w : World) (c : CoordinatorId) (k : Coordinator) (n : Nat) (g : GateId) :
    w.KeepsShutdown z (w.drained c k n g) := by
  rcases drained_cases w c k n g with ⟨h, -⟩ | ⟨h, -⟩ <;> rw [h]
  · exact keepsShutdown_strike w c k g
  · exact .refl z w

end World

namespace Machine

open Http World

variable {z : ServiceId} {w : World} {s : List Activation}

/-! ## Into a caller's code and back -/

theorem firstPoll_keepsShutdown (w : World) (s : List Activation) (d : DrainId) (x : ServiceId)
    (timeout : Span) : w.KeepsShutdown z (firstPoll w s d x timeout).world := by
  unfold firstPoll
  split
  · exact .refl z w
  · rename_i k _
    have hp := keepsShutdown_poll (z := z) w k ⟨x, timeout, w.clock + timeout.toNanos⟩
    simp only
    split
    · rename_i u hu
      rw [hu] at hp
      exact hp.trans (keepsShutdown_of_eq rfl)
    · rename_i u o _ hu
      rw [hu] at hp
      exact hp.trans (keepsShutdown_dropService u x)

theorem finish_keepsShutdown (w : World) (s : List Activation) (after : After) :
    w.KeepsShutdown z (finish w s after).world := by
  unfold finish
  cases after with
  | reply | raise => exact .refl z w
  | snapshot c | respond _ c =>
    simp only
    split <;> exact .refl z w
  | firstPoll d x timeout => exact firstPoll_keepsShutdown w s d x timeout

theorem deliver_keepsShutdown (w : World) (s : List Activation) (c : CoordinatorId) (after : After) :
    w.KeepsShutdown z (deliver w s c after).world := by
  unfold deliver
  split
  · exact finish_keepsShutdown w s after
  · split
    · exact (finish_keepsShutdown _ s after).after_eq rfl
    · exact keepsShutdown_of_eq rfl

theorem dispatch_keepsShutdown (w : World) (s : List Activation) (c : CoordinatorId) (after : After) :
    w.KeepsShutdown z (dispatch w s c after).world := by
  unfold dispatch
  split
  · exact finish_keepsShutdown w s after
  · split
    · exact finish_keepsShutdown w s after
    · exact (deliver_keepsShutdown _ s c after).after_eq rfl

theorem nextHook_keepsShutdown (w : World) (s : List Activation) (c : CoordinatorId) (h : Hook)
    (others : List Listener) (after : After) :
    w.KeepsShutdown z (nextHook w s c h others after).world := by
  unfold nextHook
  split
  · exact deliver_keepsShutdown w s c after
  · exact keepsShutdown_of_eq rfl

theorem fire_keepsShutdown (w : World) (s : List Activation) (g : GateId) (callback : Option DrainCallback)
    (after : After) : w.KeepsShutdown z (fire w s g callback after).world := by
  rcases fire_cases w s g callback after with
    ⟨h, -⟩ | ⟨cb, -, ⟨code, -, h⟩ | ⟨c, n, k, -, -, -, h⟩ | ⟨c, n, -, -, h⟩⟩ <;> rw [h]
  · exact finish_keepsShutdown w s after
  · exact keepsShutdown_of_eq rfl
  · have hnoted : w.KeepsShutdown z (w.note (.fired g cb)) := keepsShutdown_of_eq rfl
    exact (hnoted.trans (keepsShutdown_drained _ c k n g)).trans (dispatch_keepsShutdown _ s c after)
  · exact (finish_keepsShutdown _ s after).after_eq rfl

/-! ## Operations -/

theorem turnAway_keepsShutdown (g : GateId) (y : Gate) (edit : Edit) :
    w.KeepsShutdown z (turnAway w s g y edit).world :=
  (fire_keepsShutdown _ s g _ _).after_eq rfl

theorem acquire_keepsShutdown (g : GateId) (p : PermitId) : w.KeepsShutdown z (acquire w s g p).world := by
  unfold acquire
  split
  · split
    · exact keepsShutdown_of_eq rfl
    · exact (fire_keepsShutdown _ s g _ _).after_eq rfl
  · exact .refl z w

theorem giveBack_keepsShutdown (g : GateId) (p : PermitId) : w.KeepsShutdown z (giveBack w s g p).world := by
  unfold giveBack
  split
  · exact .refl z w
  · rename_i y _
    have hr := keepsShutdown_release (z := z) w g y p
    split <;> rename_i hu <;> rw [hu] at hr
    · exact hr.trans (fire_keepsShutdown _ s g _ _)
    · exact hr

theorem letGo_keepsShutdown (p : Permit) (after : After) : w.KeepsShutdown z (letGo w s p after).world := by
  unfold letGo
  split
  · exact finish_keepsShutdown w s after
  · exact (keepsShutdown_drop w _ _ _).trans (fire_keepsShutdown _ s _ _ after)

theorem releaseVia_keepsShutdown (g : GateId) (p : Permit) :
    w.KeepsShutdown z (releaseVia w s g p).world := by
  unfold releaseVia
  split
  · split
    · exact giveBack_keepsShutdown g p.id
    · exact (letGo_keepsShutdown p _).after_eq rfl
  · exact .refl z w

theorem releaseTicket_keepsShutdown (g : GateId) (t : Ticket) :
    w.KeepsShutdown z (releaseTicket w s g t).world := by
  unfold releaseTicket
  split
  · exact .refl z w
  · split
    · exact giveBack_keepsShutdown g t.permit
    · exact keepsShutdown_of_eq rfl

theorem suspend_keepsShutdown (c : CoordinatorId) (after : After) :
    w.KeepsShutdown z (suspend w s c after).world := by
  unfold suspend
  split
  · exact .refl z w
  · rename_i k _
    split
    · exact (keepsShutdown_of_remainder (suspend_remainder w c k)).trans (dispatch_keepsShutdown _ s c after)
    · exact finish_keepsShutdown w s after

theorem resume_keepsShutdown (c : CoordinatorId) (after : After) :
    w.KeepsShutdown z (resume w s c after).world := by
  unfold resume
  split
  · exact .refl z w
  · rename_i k _
    split
    · exact finish_keepsShutdown w s after
    · exact (keepsShutdown_of_remainder (resume_remainder w c k)).trans (dispatch_keepsShutdown _ s c after)

theorem suspendService_keepsShutdown (x : ServiceId) (after : CoordinatorId → After) :
    w.KeepsShutdown z (suspendService w s x after).world := by
  unfold suspendService
  split
  · exact .refl z w
  · exact suspend_keepsShutdown _ _

theorem resumeService_keepsShutdown (x : ServiceId) (after : CoordinatorId → After) :
    w.KeepsShutdown z (resumeService w s x after).world := by
  unfold resumeService
  split
  · exact .refl z w
  · exact resume_keepsShutdown _ _

theorem startDrain_keepsShutdown (d : DrainId) (x : ServiceId) (timeout : Span) :
    w.KeepsShutdown z (startDrain w s d x timeout).world := by
  unfold startDrain
  split
  · rename_i u _ hu
    have hheld : w.KeepsShutdown z (w.setService x { u with handles := u.handles + 1 }) :=
      keepsShutdown_setService hu rfl
    exact hheld.trans (suspendService_keepsShutdown x _)
  · exact .refl z w

theorem pollAt_keepsShutdown (d : DrainId) (deadline : Drain → Nat) (late : World → DrainError → World)
    (hlate : ∀ v err, World.KeepsShutdown z v (late v err)) :
    w.KeepsShutdown z (pollAt w s d deadline late).world := by
  unfold pollAt
  split
  · exact .refl z w
  rename_i x _
  split
  · exact .refl z w
  rename_i k _
  have hp := keepsShutdown_poll (z := z) w k { x with deadline := deadline x }
  -- the drain is over: it is forgotten and lets go of its service
  have hend (u : World) (hu : w.KeepsShutdown z u) :
      w.KeepsShutdown z ({ u with drains := u.drains.erase d }.dropService x.service) :=
    hu.trans ((keepsShutdown_dropService _ _).after_eq rfl)
  generalize w.poll k { x with deadline := deadline x } = po at hp ⊢
  obtain ⟨u, o⟩ := po
  cases o with
  | pending => exact hp
  | drained => exact hend u hp
  | timedOut err => exact hend _ (hp.trans (hlate u err))

theorem respond_keepsShutdown (p : Permit) (r : Response) : w.KeepsShutdown z (respond w s p r).world := by
  unfold respond
  split
  · exact .refl z w
  · rename_i y _
    have hr := keepsShutdown_release (z := z) w p.gate y p.id
    split <;> rename_i hu <;> rw [hu] at hr
    · exact hr.trans (fire_keepsShutdown _ s _ _ _)
    · exact hr.trans (keepsShutdown_of_eq rfl)

theorem shutdown_keepsShutdown {x : ServiceId} (hx : z ≠ x) (r : Reply) :
    w.KeepsShutdown z (shutdown w s x r).world := by
  unfold shutdown
  split
  · exact .refl z w
  · exact keepsShutdown_setService_of_ne hx _

/-- **Of an operator's commands only one asks for a shutdown.** -/
theorem command_keepsShutdown {x : ServiceId} {o : Command} (h : o = .shutdown → z ≠ x) (head : Bool) :
    w.KeepsShutdown z (command w s x o head).world := by
  unfold command
  split
  · exact .refl z w
  · cases o with
    | health | state => exact .refl z w
    | suspend => exact suspendService_keepsShutdown x _
    | resume => exact resumeService_keepsShutdown x _
    | shutdown => exact shutdown_keepsShutdown (h rfl) _

theorem behindGate_keepsShutdown (g : GateId) (l : Landing) (q : Request) (p : PermitId) :
    w.KeepsShutdown z (behindGate w s g l q p).world := by
  unfold behindGate
  split
  · split
    · split
      · exact keepsShutdown_of_eq rfl
      · exact (respond_keepsShutdown _ _).after_eq rfl
    · exact turnAway_keepsShutdown g _ _
  · exact .refl z w

theorem request_keepsShutdown {site : Site} {q : Request} (h : site.route q ≠ .command z .shutdown)
    (p : PermitId) : w.KeepsShutdown z (request w s site q p).world := by
  unfold request
  split
  · rename_i x o hr
    refine command_keepsShutdown (fun ho hz => h ?_) _
    rw [hr, ho, hz]
  · exact behindGate_keepsShutdown _ _ _ _
  · exact .refl z w

/-- **No other operation changes whether a service has been asked to shut down.** -/
theorem perform_keepsShutdown {op : Op} (h : ¬ Move.AsksShutdown z (.call op)) :
    w.KeepsShutdown z (perform w s op).world := by
  cases op with
  | acquire g p => exact acquire_keepsShutdown g p
  | release p => exact giveBack_keepsShutdown p.gate p.id
  | releaseVia g p => exact releaseVia_keepsShutdown g p
  | drop p => exact letGo_keepsShutdown p _
  | releaseTicket g t => exact releaseTicket_keepsShutdown g t
  | dropCoordinator c => exact keepsShutdown_dropCoordinator w c
  | suspend c => exact suspend_keepsShutdown c _
  | resume c => exact resume_keepsShutdown c _
  | registerGate c g name =>
    simp only [perform, registerGate]
    split
    · rename_i k _ _
      exact (keepsShutdown_of_remainder (addGate_remainder (w.setGate g { name }) c k g { name })).after_eq rfl
    · exact .refl z w
  | addGate c g =>
    simp only [perform, addGate]
    split
    · exact keepsShutdown_of_remainder (addGate_remainder _ _ _ _ _)
    · exact .refl z w
  | removeGate c g =>
    simp only [perform, removeGate]
    split
    · exact .refl z w
    · exact (keepsShutdown_strike w c _ g).trans (dispatch_keepsShutdown _ s c _)
  | addListener c l offer =>
    simp only [perform, addListener]
    split
    · exact .refl z w
    · split <;> exact keepsShutdown_of_eq rfl
  | newService x c =>
    simp only [perform, newService]
    split
    · rename_i k hx _
      intro v hv
      -- the service that is made is another
      have hz : z ≠ x := by
        rintro rfl
        cases hx.symm.trans hv
      exact keepsShutdown_setService_of_ne hz _ v hv
    · exact .refl z w
  | dropService x => exact keepsShutdown_dropService w x
  | suspendService x => exact suspendService_keepsShutdown x _
  | resumeService x => exact resumeService_keepsShutdown x _
  | shutdown x => exact shutdown_keepsShutdown (fun hz => h (.inl (by rw [hz]))) _
  | startDrain d x timeout => exact startDrain_keepsShutdown d x timeout
  | pollDrain d => exact pollAt_keepsShutdown d _ _ fun v _ => .refl z v
  | giveUpDrain d => exact pollAt_keepsShutdown d _ _ fun v _ => keepsShutdown_of_eq rfl
  | cancelDrain d =>
    simp only [perform, cancelDrain]
    split
    · exact .refl z w
    · exact (keepsShutdown_dropService _ _).after_eq rfl
  | request site q p =>
    refine request_keepsShutdown (fun hr => h (.inr ⟨site, p, ?_⟩)) p
    obtain ⟨hs, hpath, hmethod⟩ := Site.route_eq_command.1 hr
    obtain ⟨method, path⟩ := q
    cases show path = "/shutdown" from hpath
    cases show method = "POST" from List.mem_singleton.1 hmethod
    exact ⟨hs, rfl⟩
  | cancelRequest r =>
    simp only [perform, cancelRequest]
    split
    · exact .refl z w
    · exact (letGo_keepsShutdown _ _).after_eq rfl
  | newGate | beginDrain | reopen | newCoordinator | shareCoordinator | removeListener | finishRequest =>
    simp only [perform, newGate, beginDrain, reopen, newCoordinator, shareCoordinator, removeListener,
      finishRequest]
    split <;> exact keepsShutdown_of_eq rfl
  | advance => exact keepsShutdown_of_eq rfl

/-! ## Moves -/

theorem ret_keepsShutdown (r : Response) : w.KeepsShutdown z (ret w r s).world := by
  unfold ret
  split
  · exact .refl z w
  · exact finish_keepsShutdown _ _ _
  · exact nextHook_keepsShutdown _ _ _ _ _ _
  · exact respond_keepsShutdown _ _

theorem panic_keepsShutdown (payload : Payload) : w.KeepsShutdown z (panic w payload s).world := by
  unfold panic
  split
  · exact .refl z w
  · exact .refl z w
  · exact .refl z w
  · exact (nextHook_keepsShutdown _ _ _ _ _ _).after_eq rfl
  · exact letGo_keepsShutdown _ _

theorem park_keepsShutdown (r : RequestId) : w.KeepsShutdown z (park w r s).world := by
  unfold park
  split
  · split <;> exact keepsShutdown_of_eq rfl
  · exact .refl z w

/-- **No other move changes whether a service has been asked to shut down.** -/
theorem step_keepsShutdown (m : Machine) {move : Move} (h : ¬ move.AsksShutdown z) :
    m.world.KeepsShutdown z (step m move).world := by
  unfold step
  split
  · exact .refl z _
  · cases move with
    | call op => exact perform_keepsShutdown h
    | ret r => exact ret_keepsShutdown r
    | panic payload => exact panic_keepsShutdown payload
    | park r => exact park_keepsShutdown r

/-- A service that is asked has been asked. -/
theorem shutdown_asked {v : Service} (hv : w.services z = some v) (r : Reply) :
    shutdown w s z r =
      ⟨w.setService z { v with shutdown := true, version := v.version + 1 }, s, .replied r⟩ := by
  unfold shutdown
  rw [hv]
  rfl

/-- **No move takes back what a service has been asked.** -/
theorem step_shutdown {m : Machine} {v : Service} (hv : m.world.services z = some v)
    (hs : v.shutdown = true) (move : Move) :
    ∃ v', (step m move).world.services z = some v' ∧ v'.shutdown = true := by
  have hasked (r : Reply) : ∃ v', (shutdown m.world m.stack z r).world.services z = some v' ∧
      v'.shutdown = true := by
    rw [shutdown_asked hv]
    exact ⟨_, Table.set_self _ _ _, rfl⟩
  by_cases hab : m.signal = .aborted
  · exact ⟨v, by rw [step_of_aborted hab]; exact hv, hs⟩
  by_cases h : move.AsksShutdown z
  · rcases h with rfl | ⟨site, p, hz, rfl⟩
    · rw [step_call hab]
      exact hasked .done
    · have hr : site.route ⟨"POST", "/shutdown"⟩ = .command z .shutdown :=
        Site.route_eq_command.2 ⟨hz, rfl, List.mem_singleton_self _⟩
      rw [step_call hab]
      simp only [perform, request, hr, command]
      split
      · exact ⟨v, hv, hs⟩
      · exact hasked _
  · obtain ⟨v', hv', he⟩ := step_keepsShutdown m h v hv
    exact ⟨v', hv', he.trans hs⟩

/-- **What a service has been asked stays so**, whatever is done. -/
theorem run_shutdown {m : Machine} {v : Service} (hv : m.world.services z = some v) (hs : v.shutdown = true)
    (moves : List Move) : ∃ v', (run m moves).world.services z = some v' ∧ v'.shutdown = true := by
  induction moves generalizing m v with
  | nil => exact ⟨v, hv, hs⟩
  | cons move moves ih =>
    obtain ⟨v', hv', hs'⟩ := step_shutdown hv hs move
    exact ih hv' hs'

end Machine

end Sluice
