import Mathlib.Data.List.Induction
import Mathlib.Logic.Relation
import Sluice.Machine.Step
import Sluice.Proofs.World

/-!
# What a move can do

* `Op.coordinator?`, `Op.suspends`, `Op.resumes`: what an operation is called on, and whether it suspends
  or resumes it.
* `Orderly`: a move of code that leaves gates to their coordinators, calls only coordinators that
  somebody holds, and adds a gate to one coordinator at a time.
* `Change`: the pieces of which moves consist. `step_changes`: **every move is a sequence of changes**, so
  that what each change keeps, every run keeps.
-/

namespace Sluice

/-- The coordinator that an operation is called on, itself or through a service. -/
def Op.coordinator? (w : World) : Op → Option CoordinatorId
  | .shareCoordinator c | .dropCoordinator c | .suspend c | .resume c | .registerGate c _ _
  | .addGate c _ | .removeGate c _ | .addListener c _ _ | .removeListener c _ | .newService _ c => some c
  | .suspendService s | .resumeService s | .startDrain _ s _ => (w.services s).map Service.coordinator
  | .request site q _ =>
    match site.route q with
    | .command s _ => (w.services s).map Service.coordinator
    | _ => none
  | _ => none

/-- Whether an operation suspends the coordinator that it is called on. -/
def Op.suspends (w : World) : Op → Bool
  | .suspend _ | .suspendService _ => true
  | .startDrain d _ _ => (w.drains d).isNone
  | .request site q _ =>
    match site.route q with
    | .command _ .suspend => true
    | _ => false
  | _ => false

/-- Whether an operation resumes the coordinator that it is called on. -/
def Op.resumes : Op → Bool
  | .resume _ | .resumeService _ => true
  | .request site q _ =>
    match site.route q with
    | .command _ .resume => true
    | _ => false
  | _ => false

/-- No other coordinator that somebody holds has this gate. -/
def World.Sole (w : World) (c : CoordinatorId) (g : GateId) : Prop :=
  ∀ d k, w.coordinators d = some k → k.isAlive = true → g ∈ k.gates → d = c

namespace Machine

/-- The move is a call that suspends this coordinator. -/
def Move.Suspends (w : World) (move : Move) (c : CoordinatorId) : Prop :=
  ∃ op, move = .call op ∧ op.coordinator? w = some c ∧ op.suspends w = true

/-- The move is a call that resumes this coordinator. -/
def Move.Resumes (w : World) (move : Move) (c : CoordinatorId) : Prop :=
  ∃ op, move = .call op ∧ op.coordinator? w = some c ∧ op.resumes = true

/-- A move that leaves gates to coordinators, calls only coordinators that somebody holds, and adds a
gate to one of them at a time. -/
structure Orderly (w : World) (move : Move) : Prop where
  not_closing : ∀ g code, move ≠ .call (.beginDrain g code)
  not_opening : ∀ g, move ≠ .call (.reopen g)
  held : ∀ op c k, move = .call op → op.coordinator? w = some c → w.coordinators c = some k →
    k.isAlive = true
  sole : ∀ c g, move = .call (.addGate c g) → w.Sole c g

/-- An operation is orderly if it is called on nothing but coordinators that somebody holds. -/
theorem orderly_call {w : World} {op : Op} (hc : ∀ g code, op ≠ .beginDrain g code)
    (ho : ∀ g, op ≠ .reopen g)
    (hl : ((op.coordinator? w).all fun c => (w.coordinators c).all Coordinator.isAlive) = true)
    (hs : ∀ c g, op = .addGate c g → w.Sole c g) : Orderly w (.call op) := by
  refine ⟨fun g code h => hc g code (Move.call.inj h), fun g h => ho g (Move.call.inj h), ?_,
    fun c g h => hs c g (Move.call.inj h)⟩
  intro op' c k h hop hk
  cases h
  simpa [hop, hk] using hl

/-- The world and the code that runs in it. -/
abbrev Scene := World × List Activation

/-- The scene of a machine. -/
def scene (m : Machine) : Scene := (m.world, m.stack)

/-- A piece of what a move that is made in the world `w₀` can do. -/
inductive Change (w₀ : World) (move : Move) : Scene → Scene → Prop
  | gateMade {w s g name} (hm : move = .call (.newGate g name)) (hg : w.gates g = none) :
      Change w₀ move (w, s) (w.setGate g { name }, s)
  | letIn {w s g x p} (hg : w.gates g = some x) (ho : x.isOpen = true) (hp : w.issuer p = none) :
      Change w₀ move (w, s) (w.letIn g x p, s)
  | turnedAway {w s g x after} (hg : w.gates g = some x) (ho : x.isOpen = false) :
      Change w₀ move (w, s) (fire (w.turnAway g x).1 s g (w.turnAway g x).2 after).scene
  | returned {w s g x p y callback after} (hg : w.gates g = some x)
      (hr : x.release? p = some (y, callback)) :
      Change w₀ move (w, s) (fire ((w.setGate g y).note (.returned g p)) s g callback after).scene
  | closed {w s g x code} (hm : move = .call (.beginDrain g code)) (hg : w.gates g = some x) :
      Change w₀ move (w, s) ((w.beginDrain g x (.run code)).1, s)
  | reopened {w s g x} (hm : move = .call (.reopen g)) (hg : w.gates g = some x) :
      Change w₀ move (w, s) (w.reopen g x, s)
  | coordinatorMade {s c} (hc : w₀.coordinators c = none) :
      Change w₀ move (w₀, s) (w₀.setCoordinator c {}, s)
  | suspended {w s c k after} (hk : w.coordinators c = some k)
      (hl : Orderly w₀ move → k.isAlive = true) (hs : k.state = .running) (hm : move.Suspends w₀ c) :
      Change w₀ move (w, s) (dispatch (w.suspend c k) s c after).scene
  | resumed {w s c k after} (hm : move.Resumes w₀ c) (hk : w.coordinators c = some k)
      (hl : Orderly w₀ move → k.isAlive = true) (hs : k.state ≠ .running) :
      Change w₀ move (w, s) (dispatch (w.resume c k) s c after).scene
  | gateAdded {s c k g x} (hm : move = .call (.addGate c g)) (hk : w₀.coordinators c = some k)
      (hg : w₀.gates g = some x) (hl : Orderly w₀ move → k.isAlive = true)
      (ho : Orderly w₀ move → w₀.Sole c g) :
      Change w₀ move (w₀, s) (w₀.addGate c k g x, s)
  | gateRegistered {w s c k g name} (hm : move = .call (.registerGate c g name))
      (hk : w.coordinators c = some k) (hg : w.gates g = none)
      (hl : Orderly w₀ move → k.isAlive = true) :
      Change w₀ move (w, s) ((w.setGate g { name }).addGate c k g { name }, s)
  | gateRemoved {w s c k g after} (hm : move = .call (.removeGate c g))
      (hk : w.coordinators c = some k) (hl : Orderly w₀ move → k.isAlive = true) :
      Change w₀ move (w, s) (dispatch (w.removeGate c k g) s c after).scene
  | subscribed {w s c k l} (hk : w.coordinators c = some k) :
      Change w₀ move (w, s)
        ((w.setCoordinator c { k with listeners := k.listeners ++ [l] }).note
          (.offered c l k.state true), s)
  | declined {w s c l state} : Change w₀ move (w, s) (w.note (.offered c l state false), s)
  | unsubscribed {w s c k l} (hk : w.coordinators c = some k) :
      Change w₀ move (w, s)
        ((w.setCoordinator c { k with listeners := k.listeners.filter fun x => x.id ≠ l }).note
          (.unsubscribed c l), s)
  | shared {w s c k} (hk : w.coordinators c = some k) (hl : Orderly w₀ move → k.isAlive = true) :
      Change w₀ move (w, s) (w.setCoordinator c { k with handles := k.handles + 1 }, s)
  | dropped {w s c k} (hk : w.coordinators c = some k) :
      Change w₀ move (w, s) (w.setCoordinator c { k with handles := k.handles - 1 }, s)
  | hookLeft {w s c h l others after} :
      Change w₀ move (w, .hook c h l others after :: s) (nextHook w s c h others after).scene
  | callbackLeft {w s g code after} : Change w₀ move (w, .callback g code after :: s) (w, s)
  | handlerEntered {w s a} : Change w₀ move (w, s) (w, .handler a :: s)
  | handlerLeft {w s a} : Change w₀ move (w, .handler a :: s) (w, s)
  | finished {w s after} : Change w₀ move (w, s) (finish w s after).scene
  | alerted {w s a} : Change w₀ move (w, s) (w.alert a, s)
  | aside {w w' s} (hg : w'.gates = w.gates := by rfl) (hi : w'.issuer = w.issuer := by rfl)
      (hc : w'.coordinators = w.coordinators := by rfl) (hj : w'.journal = w.journal := by rfl) :
      Change w₀ move (w, s) (w', s)

/-- Changes one after another. -/
abbrev Changes (w₀ : World) (move : Move) : Scene → Scene → Prop :=
  Relation.ReflTransGen (Change w₀ move)

variable {w₀ w : World} {move : Move} {s : List Activation}

theorem Change.one {a b : Scene} (h : Change w₀ move a b) : Changes w₀ move a b :=
  Relation.ReflTransGen.single h

/-- What each change keeps, changes keep. -/
theorem Changes.keep {P : Scene → Prop} (hP : ∀ a b, Change w₀ move a b → P a → P b) {a b : Scene}
    (h : Changes w₀ move a b) (ha : P a) : P b := by
  induction h with
  | refl => exact ha
  | tail _ hbc ih => exact hP _ _ hbc ih

/-! ## Gates -/

theorem newGate_changes (g : GateId) (name : String) :
    Changes w₀ (.call (.newGate g name)) (w, s) (newGate w s g name).scene := by
  unfold newGate
  split
  · exact .refl
  · rename_i hg; exact (Change.gateMade rfl hg).one

theorem acquire_changes (g : GateId) (p : PermitId) :
    Changes w₀ move (w, s) (acquire w s g p).scene := by
  unfold acquire
  split
  · rename_i x hg hp
    split
    · rename_i ho; exact (Change.letIn hg ho hp).one
    · rename_i ho; exact (Change.turnedAway hg (by simpa using ho)).one
  · exact .refl

/-- A permit comes back, or it is not out and the log says so. -/
theorem release_changes {g : GateId} {x : Gate} (hg : w.gates g = some x) (p : PermitId)
    (after : After) {m : Machine} {f : World → GateError → Machine}
    (hm : m = match w.release g x p with
      | (w, .ok callback) => fire w s g callback after
      | (w, .error e) => f w e)
    (hf : ∀ w e, Changes w₀ move (w, s) (f w e).scene) : Changes w₀ move (w, s) m.scene := by
  subst hm
  unfold World.release
  -- what follows is the callback's, or the log's and the caller's
  cases hr : x.release? p with
  | some y => exact (Change.returned hg hr).one
  | none => exact (Change.alerted.one).trans (hf _ _)

theorem giveBack_changes (g : GateId) (p : PermitId) :
    Changes w₀ move (w, s) (giveBack w s g p).scene := by
  unfold giveBack
  split
  · exact .refl
  · rename_i x hg
    exact release_changes hg p _ rfl fun _ _ => .refl

theorem letGo_changes (p : Permit) (after : After) :
    Changes w₀ move (w, s) (letGo w s p after).scene := by
  unfold letGo
  split
  · exact Change.finished.one
  · rename_i x hg
    simp only [World.drop, World.release]
    -- a permit that is let go of twice is logged twice, and no error is returned
    cases hr : x.release? p.id with
    | some y => exact (Change.returned hg hr).one
    | none => exact (Change.alerted.one.tail .alerted).tail .finished

theorem releaseVia_changes (g : GateId) (p : Permit) :
    Changes w₀ move (w, s) (releaseVia w s g p).scene := by
  unfold releaseVia
  split
  · split
    · exact giveBack_changes g p.id
    · exact Change.alerted.one.trans (letGo_changes p _)
  · exact .refl

theorem releaseTicket_changes (g : GateId) (t : Ticket) :
    Changes w₀ move (w, s) (releaseTicket w s g t).scene := by
  unfold releaseTicket
  split
  · exact .refl
  · split
    · exact giveBack_changes g t.permit
    · exact Change.alerted.one

theorem beginDrain_changes (g : GateId) (code : CodeId) :
    Changes w₀ (.call (.beginDrain g code)) (w, s) (beginDrain w s g code).scene := by
  unfold beginDrain
  split
  · exact .refl
  · rename_i x hg; exact (Change.closed rfl hg).one

theorem reopen_changes (g : GateId) :
    Changes w₀ (.call (.reopen g)) (w, s) (reopen w s g).scene := by
  unfold reopen
  split
  · exact .refl
  · rename_i x hg; exact (Change.reopened rfl hg).one

/-! ## Coordinators -/

theorem newCoordinator_changes (c : CoordinatorId) :
    Changes w move (w, s) (newCoordinator w s c).scene := by
  unfold newCoordinator
  split
  · exact .refl
  · rename_i hc; exact (Change.coordinatorMade hc).one

theorem shareCoordinator_changes (c : CoordinatorId)
    (hl : ∀ k, w.coordinators c = some k → Orderly w₀ move → k.isAlive = true) :
    Changes w₀ move (w, s) (shareCoordinator w s c).scene := by
  unfold shareCoordinator
  split
  · exact .refl
  · rename_i k hk; exact (Change.shared hk (hl k hk)).one

theorem dropCoordinator_changes (c : CoordinatorId) :
    Changes w₀ move (w, s) (w.dropCoordinator c, s) := by
  unfold World.dropCoordinator
  split
  · exact .refl
  · rename_i k hk; exact (Change.dropped hk).one

theorem suspend_changes (c : CoordinatorId) (after : After) (hm : move.Suspends w₀ c)
    (hl : ∀ k, w.coordinators c = some k → Orderly w₀ move → k.isAlive = true) :
    Changes w₀ move (w, s) (suspend w s c after).scene := by
  unfold suspend
  split
  · exact .refl
  · rename_i k hk
    split
    · rename_i hs; exact (Change.suspended hk (hl k hk) hs hm).one
    · exact Change.finished.one

theorem resume_changes (c : CoordinatorId) (after : After) (hm : move.Resumes w₀ c)
    (hl : ∀ k, w.coordinators c = some k → Orderly w₀ move → k.isAlive = true) :
    Changes w₀ move (w, s) (resume w s c after).scene := by
  unfold resume
  split
  · exact .refl
  · rename_i k hk
    split
    · exact Change.finished.one
    · rename_i hs; exact (Change.resumed hm hk (hl k hk) hs).one

theorem addListener_changes (c : CoordinatorId) (l : Listener) (offer : SuspendState → Offer) :
    Changes w₀ move (w, s) (addListener w s c l offer).scene := by
  unfold addListener
  split
  · exact .refl
  · rename_i k hk
    split
    · exact (Change.subscribed hk).one
    · exact Change.declined.one
    · exact Change.alerted.one.tail .declined

theorem removeListener_changes (c : CoordinatorId) (l : ListenerId) :
    Changes w₀ move (w, s) (removeListener w s c l).scene := by
  unfold removeListener
  split
  · exact .refl
  · rename_i k hk; exact (Change.unsubscribed hk).one

/-! ## Services and drains -/

theorem dropService_changes (x : ServiceId) : Changes w₀ move (w, s) (w.dropService x, s) := by
  unfold World.dropService
  split
  · exact .refl
  · have haside (y : Service) : Changes w₀ move (w, s) (w.setService x y, s) :=
      (Change.aside).one
    simp only
    split
    · exact (haside _).trans (dropCoordinator_changes _)
    · exact haside _

theorem expire_changes (k : Coordinator) (d : Drain) :
    Changes w₀ move (w, s) ((w.expire k d).1, s) := by
  unfold World.expire
  -- one alert for each busy gate, whatever world they are read in
  suffices h : ∀ (l : List (String × Int)) (v : World),
      Changes w₀ move (v, s) (l.foldl (fun w x => w.alert (.stillBusy x.1 x.2)) v, s) from h _ w
  intro l
  induction l with
  | nil => intro v; exact .refl
  | cons y l ih => intro v; exact Change.alerted.one.trans (ih _)

theorem poll_changes (k : Coordinator) (d : Drain) : Changes w₀ move (w, s) ((w.poll k d).1, s) := by
  unfold World.poll
  split
  · exact .refl
  · split
    · exact expire_changes k d
    · exact .refl

theorem pollAt_changes (d : DrainId) (deadline : Drain → Nat) (late : World → DrainError → World)
    (hlate : ∀ v e, Changes w₀ move (v, s) (late v e, s)) :
    Changes w₀ move (w, s) (pollAt w s d deadline late).scene := by
  unfold pollAt
  split
  · exact .refl
  rename_i x _
  split
  · exact .refl
  rename_i k _
  have hpoll : Changes w₀ move (w, s) ((w.poll k { x with deadline := deadline x }).1, s) :=
    poll_changes k _
  -- the drain is over: it is forgotten and lets go of its service
  have hend (v : World) (o : DrainOutcome) (hv : Changes w₀ move (w, s) (v, s)) :
      Changes w₀ move (w, s)
        (reply ({ v with drains := v.drains.erase d }.dropService x.service) s (.drain o)).scene :=
    (hv.tail .aside).trans (dropService_changes _)
  generalize w.poll k { x with deadline := deadline x } = po at hpoll ⊢
  obtain ⟨v, o⟩ := po
  cases o with
  | pending => exact hpoll
  | drained => exact hend v _ hpoll
  | timedOut e => exact hend _ _ (hpoll.trans (hlate v e))

theorem startDrain_changes (d : DrainId) (x : ServiceId) (timeout : Span)
    (hm : move = .call (.startDrain d x timeout)) :
    Changes w move (w, s) (startDrain w s d x timeout).scene := by
  unfold startDrain
  split
  · rename_i y hd hy
    -- the drain holds its service before it suspends
    set w' := w.setService x { y with handles := y.handles + 1 } with hw'
    have haside : Changes w move (w, s) (w', s) := .single .aside
    refine haside.trans ?_
    unfold suspendService World.coordinatorOf
    have hx : w'.services x = some { y with handles := y.handles + 1 } := by
      rw [hw', World.setService]; exact Table.set_self _ _ _
    rw [hx]
    cases hk : w'.coordinators y.coordinator with
    | none => simp only [hk, bind, Option.bind]; exact .refl
    | some k =>
      simp only [hk, bind, Option.bind, pure]
      have hc : (Op.startDrain d x timeout).coordinator? w = some y.coordinator := by
        simp [Op.coordinator?, hy]
      refine suspend_changes _ _ ⟨_, hm, hc, ?_⟩ fun k' hk' h => h.held _ _ k' hm hc hk'
      simp only [Op.suspends, hd, Option.isNone_none]
  · exact .refl

/-! ## Requests -/

theorem coordinatorOf_eq_some {x : ServiceId} {c : CoordinatorId} {k : Coordinator}
    (h : w.coordinatorOf x = some (c, k)) :
    (w.services x).map Service.coordinator = some c ∧ w.coordinators c = some k := by
  unfold World.coordinatorOf at h
  cases hx : w.services x with
  | none => rw [hx] at h; simp at h
  | some y =>
    rw [hx] at h
    cases hk : w.coordinators y.coordinator with
    | none => simp [hk] at h
    | some k' =>
      simp only [hk, bind, Option.bind, pure, Option.some.injEq, Prod.mk.injEq] at h
      obtain ⟨rfl, rfl⟩ := h
      exact ⟨rfl, hk⟩

theorem respond_changes (p : Permit) (r : Http.Response) :
    Changes w₀ move (w, s) (respond w s p r).scene := by
  unfold respond
  split
  · exact .refl
  · rename_i x hg
    exact release_changes hg p.id _ rfl fun _ _ => Change.alerted.one

theorem suspendService_changes {op : Op} (hm : move = .call op) (x : ServiceId)
    (after : CoordinatorId → After)
    (hc : op.coordinator? w = (w.services x).map Service.coordinator) (ho : op.suspends w = true) :
    Changes w move (w, s) (suspendService w s x after).scene := by
  unfold suspendService
  split
  · exact .refl
  · rename_i c k hx
    obtain ⟨hs, -⟩ := coordinatorOf_eq_some hx
    exact suspend_changes c _ ⟨op, hm, hc.trans hs, ho⟩ fun k hk h => h.held _ _ k hm (hc.trans hs) hk

theorem resumeService_changes {op : Op} (hm : move = .call op) (x : ServiceId)
    (after : CoordinatorId → After)
    (hc : op.coordinator? w = (w.services x).map Service.coordinator) (ho : op.resumes = true) :
    Changes w move (w, s) (resumeService w s x after).scene := by
  unfold resumeService
  split
  · exact .refl
  · rename_i c k hx
    obtain ⟨hs, -⟩ := coordinatorOf_eq_some hx
    exact resume_changes c _ ⟨op, hm, hc.trans hs, ho⟩ fun k hk h => h.held _ _ k hm (hc.trans hs) hk

theorem command_changes {site : Http.Site} {q : Http.Request} {p : PermitId} {x : ServiceId}
    {c : Http.Command} (hr : site.route q = .command x c) (head : Bool) :
    Changes w (.call (.request site q p)) (w, s) (command w s x c head).scene := by
  have hc : (Op.request site q p).coordinator? w = (w.services x).map Service.coordinator := by
    simp only [Op.coordinator?, hr]
  unfold command
  split
  · exact .refl
  · -- only two commands touch a coordinator
    cases c with
    | health => exact .refl
    | state => exact .refl
    | suspend => exact suspendService_changes rfl x _ hc (by simp only [Op.suspends, hr])
    | resume => exact resumeService_changes rfl x _ hc (by simp only [Op.resumes, hr])
    | shutdown =>
      simp only [shutdown]
      split
      · exact .refl
      · exact (Change.aside).one

theorem behindGate_changes (g : GateId) (l : Http.Landing) (q : Http.Request) (p : PermitId) :
    Changes w₀ move (w, s) (behindGate w s g l q p).scene := by
  unfold behindGate
  split
  · rename_i x hg hp
    split
    · rename_i ho
      split
      · exact (Change.letIn hg ho hp).one.tail .handlerEntered
      · -- a permit is taken and given back
        exact (Change.letIn hg ho hp).one.trans (respond_changes _ _)
    · rename_i ho
      exact (Change.turnedAway hg (by simpa using ho)).one
  · exact .refl

theorem request_changes (site : Http.Site) (q : Http.Request) (p : PermitId) :
    Changes w (.call (.request site q p)) (w, s) (request w s site q p).scene := by
  unfold request
  split
  · rename_i x c hr
    exact command_changes hr _
  · exact behindGate_changes _ _ _ _
  · exact .refl

theorem finishRequest_changes (r : RequestId) :
    Changes w₀ move (w, s) (finishRequest w s r).scene := by
  unfold finishRequest
  split
  · exact .refl
  · exact (Change.aside).one.tail .handlerEntered

theorem cancelRequest_changes (r : RequestId) :
    Changes w₀ move (w, s) (cancelRequest w s r).scene := by
  unfold cancelRequest
  split
  · exact .refl
  · exact (Change.aside).one.trans (letGo_changes _ _)

/-! ## Moves -/

theorem perform_changes (op : Op) : Changes w (.call op) (w, s) (perform w s op).scene := by
  have hheld {c : CoordinatorId} (hc : op.coordinator? w = some c) (k : Coordinator)
      (hk : w.coordinators c = some k) (h : Orderly w (.call op)) : k.isAlive = true :=
    h.held op c k rfl hc hk
  unfold perform
  cases op with
  | newGate g name => exact newGate_changes g name
  | acquire g p => exact acquire_changes g p
  | release p => exact giveBack_changes p.gate p.id
  | releaseVia g p => exact releaseVia_changes g p
  | drop p => exact letGo_changes p _
  | releaseTicket g t => exact releaseTicket_changes g t
  | beginDrain g code => exact beginDrain_changes g code
  | reopen g => exact reopen_changes g
  | newCoordinator c => exact newCoordinator_changes c
  | shareCoordinator c => exact shareCoordinator_changes c (hheld rfl)
  | dropCoordinator c => exact dropCoordinator_changes c
  | suspend c => exact suspend_changes c _ ⟨_, rfl, rfl, rfl⟩ (hheld rfl)
  | resume c => exact resume_changes c _ ⟨_, rfl, rfl, rfl⟩ (hheld rfl)
  | registerGate c g name =>
    simp only [registerGate]
    split
    · rename_i k hk hg; exact (Change.gateRegistered rfl hk hg (hheld rfl k hk)).one
    · exact .refl
  | addGate c g =>
    simp only [addGate]
    split
    · rename_i k x hk hg
      exact (Change.gateAdded rfl hk hg (hheld rfl k hk) fun h => h.sole c g rfl).one
    · exact .refl
  | removeGate c g =>
    simp only [removeGate]
    split
    · exact .refl
    · rename_i k hk; exact (Change.gateRemoved rfl hk (hheld rfl k hk)).one
  | addListener c l offer => exact addListener_changes c l offer
  | removeListener c l => exact removeListener_changes c l
  | newService x c =>
    simp only [newService]
    split
    · rename_i k _ hk
      exact (Change.shared hk (hheld rfl k hk)).one.tail .aside
    · exact .refl
  | dropService x => exact dropService_changes x
  | suspendService x => exact suspendService_changes rfl x _ rfl rfl
  | resumeService x => exact resumeService_changes rfl x _ rfl rfl
  | shutdown x =>
    simp only [shutdown]
    split
    · exact .refl
    · exact (Change.aside).one
  | startDrain d x timeout => exact startDrain_changes d x timeout rfl
  | pollDrain d => exact pollAt_changes d _ _ fun _ _ => .refl
  | giveUpDrain d => exact pollAt_changes d _ _ fun _ _ => Change.alerted.one
  | cancelDrain d =>
    simp only [cancelDrain]
    split
    · exact .refl
    · exact (Change.aside).one.trans (dropService_changes _)
  | request site q p => exact request_changes site q p
  | finishRequest r => exact finishRequest_changes r
  | cancelRequest r => exact cancelRequest_changes r
  | advance nanos => exact (Change.aside).one

theorem ret_changes (r : Http.Response) :
    Changes w₀ move (w, s) (ret w r s).scene := by
  unfold ret
  split
  · exact .refl
  · exact Change.callbackLeft.one.tail .finished
  · exact Change.hookLeft.one
  · exact Change.handlerLeft.one.trans (respond_changes _ _)

theorem panic_changes (payload : Payload) :
    Changes w₀ move (w, s) (panic w payload s).scene := by
  unfold panic
  split
  · exact .refl
  · exact Change.callbackLeft.one
  · exact Change.callbackLeft.one
  · -- a hook that panics is logged, and the delivery goes on
    exact Change.alerted.one.tail .hookLeft
  · exact Change.handlerLeft.one.trans (letGo_changes _ _)

theorem park_changes (r : RequestId) : Changes w₀ move (w, s) (park w r s).scene := by
  unfold park
  split
  · split
    · exact Change.handlerLeft.one.tail .aside
    · exact .refl
  · exact .refl

/-- **Every move is a sequence of changes.** -/
theorem step_changes (m : Machine) (move : Move) :
    Changes m.world move m.scene (step m move).scene := by
  unfold step
  split
  · exact .refl
  · cases move with
    | call op => exact perform_changes op
    | ret r => exact ret_changes r
    | panic payload => exact panic_changes payload
    | park r => exact park_changes r

/-! ## Runs -/

theorem run_append (m : Machine) (moves more : List Move) :
    run m (moves ++ more) = run (run m moves) more := List.foldl_append

theorem run_snoc (m : Machine) (moves : List Move) (move : Move) :
    run m (moves ++ [move]) = step (run m moves) move := run_append m moves [move]

/-- What each change keeps, every run keeps. -/
theorem run_keep {P : Scene → Prop}
    (hP : ∀ w₀ move a b, Change w₀ move a b → P a → P b) {m : Machine} (hm : P m.scene)
    (moves : List Move) : P (run m moves).scene := by
  -- the changes of a move are those of the world in which it is made, so the last move comes last
  induction moves using List.reverseRecOn with
  | nil => exact hm
  | append_singleton moves move ih =>
    rw [run_snoc]
    exact (step_changes _ move).keep (hP _ move) ih

end Machine

end Sluice
