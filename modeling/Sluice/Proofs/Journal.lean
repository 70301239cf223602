import Sluice.Machine.Step

/-!
# Nothing reads the journal

What a move does depends on gates, coordinators, services, drains, requests and the clock, never on the
journal, which it only adds to. A journal may therefore be read in another way before a move just as well
as after it.

* `Reading`: a way to read a journal that lets every entry stand but a listener's panic.
* `World.reread`, `Machine.reread`: the journal, read in that way.
* `World.reread_suspend`, `Machine.reread_dispatch` and the like: each operation, of a world and of the
  machine, does the same to a journal that is read anew.
* `Machine.reread_perform`, `reread_ret`, `reread_panic`, `reread_park`: the moves, unless a listener
  panics in them.
-/

namespace Sluice

/-- Whether a listener has panicked. -/
def Occurrence.isPanic : Occurrence → Bool
  | .alerted (.listenerPanicked ..) => true
  | _ => false

/-- A way to read a journal. Only a listener's panic may make a difference to the rest. -/
structure Reading where
  read : List Occurrence → List Occurrence
  read_cons : ∀ o j, o.isPanic = false → read (o :: j) = o :: read j

namespace World

/-- The world with its journal read anew. -/
def reread (e : Reading) (w : World) : World := { w with journal := e.read w.journal }

variable (e : Reading) (w : World) (c : CoordinatorId) (k : Coordinator) (g : GateId) (x : Gate)

section Fields

@[simp] theorem reread_gates : (w.reread e).gates = w.gates := rfl
@[simp] theorem reread_issuer : (w.reread e).issuer = w.issuer := rfl
@[simp] theorem reread_coordinators : (w.reread e).coordinators = w.coordinators := rfl
@[simp] theorem reread_services : (w.reread e).services = w.services := rfl
@[simp] theorem reread_drains : (w.reread e).drains = w.drains := rfl
@[simp] theorem reread_waiting : (w.reread e).waiting = w.waiting := rfl
@[simp] theorem reread_clock : (w.reread e).clock = w.clock := rfl
@[simp] theorem reread_journal : (w.reread e).journal = e.read w.journal := rfl

theorem reread_setGate : (w.reread e).setGate g x = (w.setGate g x).reread e := rfl
theorem reread_setCoordinator : (w.reread e).setCoordinator c k = (w.setCoordinator c k).reread e := rfl
theorem reread_setService (s : ServiceId) (y : Service) :
    (w.reread e).setService s y = (w.setService s y).reread e := rfl

theorem reread_note {o : Occurrence} (ho : o.isPanic = false) :
    (w.reread e).note o = (w.note o).reread e := by
  unfold reread note
  rw [e.read_cons o w.journal ho]

theorem reread_alert {a : Alert} (ha : (Occurrence.alerted a).isPanic = false) :
    (w.reread e).alert a = (w.alert a).reread e := reread_note e w ha

end Fields

/-! ## Gates -/

theorem reread_letIn (p : PermitId) : (w.reread e).letIn g x p = (w.letIn g x p).reread e :=
  reread_note e { (w.setGate g (x.letIn p)) with issuer := w.issuer.set p g } rfl

theorem reread_turnAway :
    (w.reread e).turnAway g x = ((w.turnAway g x).1.reread e, (w.turnAway g x).2) := rfl

theorem reread_release (p : PermitId) :
    (w.reread e).release g x p = ((w.release g x p).1.reread e, (w.release g x p).2) := by
  unfold release
  split
  · rw [reread_setGate, reread_note e _ rfl]
  · rw [reread_alert e _ rfl]

theorem reread_drop (p : PermitId) :
    (w.reread e).drop g x p = ((w.drop g x p).1.reread e, (w.drop g x p).2) := by
  unfold drop
  rw [reread_release]
  obtain ⟨v, r⟩ := w.release g x p
  cases r with
  | ok callback => rfl
  | error err => exact congrArg (·, none) (reread_alert e v rfl)

theorem reread_beginDrain (cb : DrainCallback) :
    (w.reread e).beginDrain g x cb = ((w.beginDrain g x cb).1.reread e, (w.beginDrain g x cb).2) := by
  unfold beginDrain
  simp only
  rw [reread_setGate, reread_note e _ rfl]

theorem reread_reopen : (w.reread e).reopen g x = (w.reopen g x).reread e := by
  unfold reopen
  rw [reread_setGate, reread_note e _ rfl]

theorem reread_closeAll (cb : DrainCallback) (gs : List GateId) :
    (w.reread e).closeAll cb gs = ((w.closeAll cb gs).1.reread e, (w.closeAll cb gs).2) := by
  induction gs generalizing w with
  | nil => rfl
  | cons g gs ih =>
    unfold closeAll
    rw [reread_gates]
    cases w.gates g with
    | none => exact ih w
    | some x => simp only [reread_beginDrain, ih]

theorem reread_openAll (gs : List GateId) : (w.reread e).openAll gs = (w.openAll gs).reread e := by
  induction gs generalizing w with
  | nil => rfl
  | cons g gs ih =>
    unfold openAll
    rw [reread_gates]
    cases w.gates g with
    | none => exact ih w
    | some x => simp only [reread_reopen, ih]

/-! ## Coordinators -/

theorem reread_enter (s : SuspendState) : (w.reread e).enter c k s = (w.enter c k s).reread e := by
  unfold enter
  rw [reread_setCoordinator, reread_note e _ rfl]

theorem reread_complete : (w.reread e).complete c k = (w.complete c k).reread e :=
  reread_enter e w c _ _

theorem reread_suspend : (w.reread e).suspend c k = (w.suspend c k).reread e := by
  unfold suspend
  simp only [reread_enter, reread_closeAll]
  split
  · exact reread_complete e _ _ _
  · rfl

theorem reread_resume : (w.reread e).resume c k = (w.resume c k).reread e := by
  unfold resume
  simp only [reread_enter, reread_openAll]

theorem reread_strike : (w.reread e).strike c k g = (w.strike c k g).reread e := by
  unfold strike
  split
  · rfl
  · split
    · simp only
      split
      · exact reread_complete e w _ _
      · rfl
    · rfl

theorem reread_drained (n : Nat) : (w.reread e).drained c k n g = (w.drained c k n g).reread e := by
  unfold drained
  split
  · rfl
  · split
    · exact reread_strike e w c k g
    · rfl

theorem reread_addGate : (w.reread e).addGate c k g x = (w.addGate c k g x).reread e := by
  unfold addGate
  split
  · exact reread_alert e w rfl
  split
  · rw [reread_beginDrain]
    obtain ⟨v, drained⟩ := w.beginDrain g x (.report c k.generation)
    simp only
    split
    · rfl
    · cases drained with
      | true => rfl
      | false =>
        simp only [Bool.false_eq_true, if_false]
        rw [reread_alert e v rfl, reread_setCoordinator]
  · rfl

theorem reread_removeGate : (w.reread e).removeGate c k g = (w.removeGate c k g).reread e :=
  reread_strike e w c _ g

theorem reread_dropCoordinator : (w.reread e).dropCoordinator c = (w.dropCoordinator c).reread e := by
  unfold dropCoordinator
  rw [reread_coordinators]
  cases w.coordinators c <;> rfl

/-! ## Services and drains -/

theorem reread_coordinatorOf (s : ServiceId) : (w.reread e).coordinatorOf s = w.coordinatorOf s := rfl

theorem reread_shutdown (s : ServiceId) (y : Service) :
    (w.reread e).shutdown s y = (w.shutdown s y).reread e := rfl

theorem reread_dropService (s : ServiceId) : (w.reread e).dropService s = (w.dropService s).reread e := by
  unfold dropService
  rw [reread_services]
  cases w.services s with
  | none => rfl
  | some y =>
    simp only [reread_setService]
    split
    · exact reread_dropCoordinator e _ _
    · rfl

theorem reread_expire (d : Drain) :
    (w.reread e).expire k d = ((w.expire k d).1.reread e, (w.expire k d).2) := by
  unfold expire
  -- the gates that are busy are the same, and each adds an alert
  suffices h : ∀ (l : List (String × Int)) (v : World),
      l.foldl (fun w y => w.alert (.stillBusy y.1 y.2)) (v.reread e) =
        (l.foldl (fun w y => w.alert (.stillBusy y.1 y.2)) v).reread e from
    congrArg (·, _) (h (w.outstandingGates k) w)
  intro l
  induction l with
  | nil => intro v; rfl
  | cons y l ih =>
    intro v
    rw [List.foldl_cons, List.foldl_cons, reread_alert e v rfl, ih]

theorem reread_poll (d : Drain) :
    (w.reread e).poll k d = ((w.poll k d).1.reread e, (w.poll k d).2) := by
  unfold poll
  rw [reread_clock, reread_expire]
  split
  · rfl
  · split <;> rfl

end World

namespace Machine

open Http World

/-- The machine with its journal read anew. -/
def reread (e : Reading) (m : Machine) : Machine := { m with world := m.world.reread e }

variable (e : Reading) (w : World) (s : List Activation) (c : CoordinatorId) (g : GateId)
  (after : After)

@[simp] theorem reread_world (m : Machine) : (m.reread e).world = m.world.reread e := rfl
@[simp] theorem reread_stack (m : Machine) : (m.reread e).stack = m.stack := rfl
@[simp] theorem reread_signal (m : Machine) : (m.reread e).signal = m.signal := rfl

theorem reread_reply (r : Reply) : reply (w.reread e) s r = (reply w s r).reread e := rfl

/-! ## Into a caller's code and back -/

theorem reread_firstPoll (d : DrainId) (x : ServiceId) (timeout : Span) :
    firstPoll (w.reread e) s d x timeout = (firstPoll w s d x timeout).reread e := by
  unfold firstPoll
  rw [reread_coordinatorOf]
  split
  · rfl
  · rename_i k _
    simp only [reread_poll, reread_clock]
    obtain ⟨v, o⟩ := w.poll k ⟨x, timeout, w.clock + timeout.toNanos⟩
    cases o with
    | pending => rfl
    | drained | timedOut => simp only [reread_dropService, reread_reply]

theorem reread_finish : finish (w.reread e) s after = (finish w s after).reread e := by
  unfold finish
  cases after with
  | reply | raise => rfl
  | snapshot c | respond _ c =>
    simp only [reread_coordinators]
    cases w.coordinators c <;> rfl
  | firstPoll d x timeout => exact reread_firstPoll e w s d x timeout

theorem reread_enterHook (h : Hook) (l : Listener) (others : List Listener) :
    enterHook (w.reread e) s c h l others after = (enterHook w s c h l others after).reread e := by
  unfold enterHook
  rw [reread_note e _ rfl]
  rfl

theorem reread_deliver : deliver (w.reread e) s c after = (deliver w s c after).reread e := by
  unfold deliver
  rw [reread_coordinators]
  split
  · exact reread_finish e w s after
  · split
    · exact reread_finish e (w.setCoordinator c _) s after
    · exact reread_enterHook e (w.setCoordinator c _) s c after _ _ _

theorem reread_dispatch : dispatch (w.reread e) s c after = (dispatch w s c after).reread e := by
  unfold dispatch
  rw [reread_coordinators]
  split
  · exact reread_finish e w s after
  · split
    · exact reread_finish e w s after
    · exact reread_deliver e (w.setCoordinator c _) s c after

theorem reread_nextHook (h : Hook) (others : List Listener) :
    nextHook (w.reread e) s c h others after = (nextHook w s c h others after).reread e := by
  unfold nextHook
  split
  · exact reread_deliver e w s c after
  · exact reread_enterHook e w s c after _ _ _

theorem reread_fire (callback : Option DrainCallback) :
    fire (w.reread e) s g callback after = (fire w s g callback after).reread e := by
  unfold fire
  split
  · exact reread_finish e w s after
  · rename_i cb
    simp only [reread_note e w (o := .fired g cb) rfl, reread_coordinators]
    cases cb with
    | run code => rfl
    | report c n =>
      simp only
      split
      · exact reread_finish e _ s after
      · split
        · rw [reread_drained, reread_dispatch]
        · exact reread_finish e _ s after

/-! ## Gates, permits and tickets -/

theorem reread_acquire (p : PermitId) :
    acquire (w.reread e) s g p = (acquire w s g p).reread e := by
  unfold acquire
  rw [reread_gates, reread_issuer]
  split
  · simp only [reread_letIn, reread_turnAway, reread_fire]
    split <;> rfl
  · rfl

theorem reread_giveBack (p : PermitId) :
    giveBack (w.reread e) s g p = (giveBack w s g p).reread e := by
  unfold giveBack
  rw [reread_gates]
  split
  · rfl
  · rename_i x _
    rw [reread_release]
    obtain ⟨v, r⟩ := w.release g x p
    cases r with
    | ok callback => exact reread_fire e v s g _ callback
    | error => rfl

theorem reread_letGo (p : Permit) : letGo (w.reread e) s p after = (letGo w s p after).reread e := by
  unfold letGo
  rw [reread_gates]
  split
  · exact reread_finish e w s after
  · simp only [reread_drop, reread_fire]

theorem reread_releaseVia (p : Permit) :
    releaseVia (w.reread e) s g p = (releaseVia w s g p).reread e := by
  unfold releaseVia
  simp only [reread_gates]
  split
  · split
    · exact reread_giveBack e w s g p.id
    · rw [reread_alert e w rfl, reread_letGo]
  · rfl

theorem reread_releaseTicket (t : Ticket) :
    releaseTicket (w.reread e) s g t = (releaseTicket w s g t).reread e := by
  unfold releaseTicket
  rw [reread_gates]
  split
  · rfl
  · split
    · exact reread_giveBack e w s g t.permit
    · rw [reread_alert e w rfl, reread_reply]

theorem reread_beginDrain (code : CodeId) :
    beginDrain (w.reread e) s g code = (beginDrain w s g code).reread e := by
  unfold beginDrain
  rw [reread_gates]
  split
  · rfl
  · simp only [World.reread_beginDrain, reread_reply]

theorem reread_reopen : reopen (w.reread e) s g = (reopen w s g).reread e := by
  unfold reopen
  rw [reread_gates]
  split
  · rfl
  · rw [World.reread_reopen, reread_reply]

/-! ## Coordinators -/

theorem reread_suspend : suspend (w.reread e) s c after = (suspend w s c after).reread e := by
  unfold suspend
  rw [reread_coordinators]
  split
  · rfl
  · split
    · rw [World.reread_suspend, reread_dispatch]
    · exact reread_finish e w s after

theorem reread_resume : resume (w.reread e) s c after = (resume w s c after).reread e := by
  unfold resume
  rw [reread_coordinators]
  split
  · rfl
  · split
    · exact reread_finish e w s after
    · rw [World.reread_resume, reread_dispatch]

theorem reread_registerGate (name : String) :
    registerGate (w.reread e) s c g name = (registerGate w s c g name).reread e := by
  unfold registerGate
  rw [reread_coordinators, reread_gates]
  split
  · simp only [reread_setGate, World.reread_addGate, reread_reply]
  · rfl

theorem reread_addGate : addGate (w.reread e) s c g = (addGate w s c g).reread e := by
  unfold addGate
  rw [reread_coordinators, reread_gates]
  split
  · rw [World.reread_addGate, reread_reply]
  · rfl

theorem reread_removeGate : removeGate (w.reread e) s c g = (removeGate w s c g).reread e := by
  unfold removeGate
  rw [reread_coordinators]
  split
  · rfl
  · rw [World.reread_removeGate, reread_dispatch]

/-- A listener is offered the state, and does not panic. -/
theorem reread_addListener (l : Listener) (offer : SuspendState → Offer)
    (ho : ∀ k payload, w.coordinators c = some k → offer k.state ≠ .panic payload) :
    addListener (w.reread e) s c l offer = (addListener w s c l offer).reread e := by
  unfold addListener
  rw [reread_coordinators]
  cases hk : w.coordinators c with
  | none => rfl
  | some k =>
    simp only
    cases hof : offer k.state with
    | accept =>
      simp only
      rw [reread_setCoordinator, reread_note e _ rfl, reread_reply]
    | decline =>
      simp only
      rw [reread_note e w rfl, reread_reply]
    | panic payload => exact absurd hof (ho k payload hk)

theorem reread_removeListener (l : ListenerId) :
    removeListener (w.reread e) s c l = (removeListener w s c l).reread e := by
  unfold removeListener
  rw [reread_coordinators]
  split
  · rfl
  · simp only
    rw [reread_setCoordinator, reread_note e _ rfl, reread_reply]

/-! ## Services and drains -/

theorem reread_suspendService (x : ServiceId) (after : CoordinatorId → After) :
    suspendService (w.reread e) s x after = (suspendService w s x after).reread e := by
  unfold suspendService
  rw [reread_coordinatorOf]
  split
  · rfl
  · exact reread_suspend e w s _ _

theorem reread_resumeService (x : ServiceId) (after : CoordinatorId → After) :
    resumeService (w.reread e) s x after = (resumeService w s x after).reread e := by
  unfold resumeService
  rw [reread_coordinatorOf]
  split
  · rfl
  · exact reread_resume e w s _ _

theorem reread_startDrain (d : DrainId) (x : ServiceId) (timeout : Span) :
    startDrain (w.reread e) s d x timeout = (startDrain w s d x timeout).reread e := by
  unfold startDrain
  rw [reread_drains, reread_services]
  split
  · simp only [reread_setService, reread_suspendService]
  · rfl

theorem reread_pollAt (d : DrainId) (deadline : Drain → Nat) (late : World → DrainError → World)
    (hlate : ∀ v err, late (v.reread e) err = (late v err).reread e) :
    pollAt (w.reread e) s d deadline late = (pollAt w s d deadline late).reread e := by
  unfold pollAt
  rw [reread_drains]
  split
  · rfl
  rename_i x _
  rw [reread_coordinatorOf]
  split
  · rfl
  rename_i k _
  -- the drain is over: it is forgotten and lets go of its service
  have hend (v : World) (o : DrainOutcome) :
      reply ({ v.reread e with drains := (v.reread e).drains.erase d }.dropService x.service) s
          (.drain o) =
        (reply ({ v with drains := v.drains.erase d }.dropService x.service) s (.drain o)).reread e := by
    rw [← reread_reply, ← reread_dropService]
    rfl
  rw [reread_poll]
  obtain ⟨v, o⟩ := w.poll k { x with deadline := deadline x }
  cases o with
  | pending => rfl
  | drained => exact hend v _
  | timedOut err =>
    simp only [hlate]
    exact hend (late v err) _

/-! ## Requests -/

theorem reread_respond (p : Permit) (r : Response) :
    respond (w.reread e) s p r = (respond w s p r).reread e := by
  unfold respond
  rw [reread_gates]
  split
  · rfl
  · rename_i x _
    rw [reread_release]
    obtain ⟨v, o⟩ := w.release p.gate x p.id
    cases o with
    | ok callback => exact reread_fire e v s p.gate _ callback
    | error err =>
      simp only
      rw [reread_alert e v rfl, reread_reply]

theorem reread_turnAway (x : Gate) (edit : Edit) :
    turnAway (w.reread e) s g x edit = (turnAway w s g x edit).reread e := by
  unfold turnAway
  simp only [World.reread_turnAway, reread_fire]

theorem reread_shutdown (x : ServiceId) (r : Reply) :
    shutdown (w.reread e) s x r = (shutdown w s x r).reread e := by
  unfold shutdown
  rw [reread_services]
  split <;> rfl

theorem reread_command (x : ServiceId) (o : Command) (head : Bool) :
    command (w.reread e) s x o head = (command w s x o head).reread e := by
  unfold command
  rw [reread_coordinatorOf]
  split
  · rfl
  · cases o with
    | health | state => rfl
    | suspend => exact reread_suspendService e w s x _
    | resume => exact reread_resumeService e w s x _
    | shutdown => exact reread_shutdown e w s x _

theorem reread_behindGate (l : Landing) (q : Request) (p : PermitId) :
    behindGate (w.reread e) s g l q p = (behindGate w s g l q p).reread e := by
  unfold behindGate
  rw [reread_gates, reread_issuer]
  split
  · simp only [reread_letIn, reread_turnAway]
    split
    · split
      · rfl
      · exact reread_respond e _ s _ _
    · rfl
  · rfl

theorem reread_request (site : Site) (q : Request) (p : PermitId) :
    request (w.reread e) s site q p = (request w s site q p).reread e := by
  unfold request
  split
  · exact reread_command e w s _ _ _
  · exact reread_behindGate e w s _ _ _ _
  · rfl

/-! ## Moves -/

/-- **An operation in which no listener panics** does the same whatever the journal says. -/
theorem reread_perform (op : Op)
    (ho : ∀ c l offer k payload, op = .addListener c l offer → w.coordinators c = some k →
      offer k.state ≠ .panic payload) :
    perform (w.reread e) s op = (perform w s op).reread e := by
  unfold perform
  cases op with
  | newGate g name =>
    simp only [newGate, reread_gates]
    split <;> rfl
  | acquire g p => exact reread_acquire e w s g p
  | release p => exact reread_giveBack e w s p.gate p.id
  | releaseVia g p => exact reread_releaseVia e w s g p
  | drop p => exact reread_letGo e w s _ p
  | releaseTicket g t => exact reread_releaseTicket e w s g t
  | beginDrain g code => exact reread_beginDrain e w s g code
  | reopen g => exact reread_reopen e w s g
  | newCoordinator c =>
    simp only [newCoordinator, reread_coordinators]
    split <;> rfl
  | shareCoordinator c =>
    simp only [shareCoordinator, reread_coordinators]
    split <;> rfl
  | dropCoordinator c => simp only [reread_dropCoordinator, reread_reply]
  | suspend c => exact reread_suspend e w s c _
  | resume c => exact reread_resume e w s c _
  | registerGate c g name => exact reread_registerGate e w s c g name
  | addGate c g => exact reread_addGate e w s c g
  | removeGate c g => exact reread_removeGate e w s c g
  | addListener c l offer =>
    exact reread_addListener e w s c l offer fun k payload => ho c l offer k payload rfl
  | removeListener c l => exact reread_removeListener e w s c l
  | newService x c =>
    simp only [newService, reread_services, reread_coordinators]
    split <;> rfl
  | dropService x => simp only [reread_dropService, reread_reply]
  | suspendService x => exact reread_suspendService e w s x _
  | resumeService x => exact reread_resumeService e w s x _
  | shutdown x => exact reread_shutdown e w s x _
  | startDrain d x timeout => exact reread_startDrain e w s d x timeout
  | pollDrain d => exact reread_pollAt e w s d _ _ fun _ _ => rfl
  | giveUpDrain d => exact reread_pollAt e w s d _ _ fun v err => reread_alert e v rfl
  | cancelDrain d =>
    simp only [cancelDrain, reread_drains]
    split
    · rfl
    · rename_i x _
      rw [← reread_reply, ← reread_dropService]
      rfl
  | request site q p => exact reread_request e w s site q p
  | finishRequest r =>
    simp only [finishRequest, reread_waiting]
    split <;> rfl
  | cancelRequest r =>
    simp only [cancelRequest, reread_waiting]
    split
    · rfl
    · exact reread_letGo e { w with waiting := w.waiting.erase r } s _ _
  | advance nanos => rfl

theorem reread_ret (r : Response) : ret (w.reread e) r s = (ret w r s).reread e := by
  unfold ret
  split
  · rfl
  · exact reread_finish e w _ _
  · exact reread_nextHook e w _ _ _ _ _
  · exact reread_respond e w _ _ _

/-- Code other than a hook panics. -/
theorem reread_panic (payload : Payload)
    (hs : ∀ c h l others after rest, s ≠ .hook c h l others after :: rest) :
    panic (w.reread e) payload s = (panic w payload s).reread e := by
  unfold panic
  split
  · rfl
  · rfl
  · rfl
  · exact absurd rfl (hs _ _ _ _ _ _)
  · exact reread_letGo e w _ _ _

theorem reread_park (r : RequestId) : park (w.reread e) r s = (park w r s).reread e := by
  unfold park
  split
  · rw [reread_waiting]
    split <;> rfl
  · rfl

end Machine

end Sluice
