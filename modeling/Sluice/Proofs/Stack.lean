import Sluice.Proofs.Sound

/-!
# Code does not see what has called it

What a move does is a matter of the code that makes it, never of the code below. What an operation is to
go on with plays no part until it goes on with it.

* `Machine.under`: the same, called from more code. `finish_under`, `dispatch_under`, `perform_under` and
  the like: each operation does the same. `step_under`, `run_under`: so do moves, while the code that makes
  them is not back.
* `Machine.Above`: moves that are made by code that some code has called.
* `Machine.Blind`: a delivery either ends, or has entered a hook, whatever called it and whatever comes then.
* `Tandem`: the same operation is under way twice, and is to go on with one thing or with another.
  `Tandem.step`, `Tandem.run`: **all goes the same until it is back**.
-/

namespace Sluice.Machine

open Http World

/-- The same, called from more code. -/
def under (m : Machine) (s : List Activation) : Machine := { m with stack := m.stack ++ s }

variable {w : World} {t s : List Activation} {c : CoordinatorId} {after : After}

@[simp] theorem under_world (m : Machine) (s : List Activation) : (m.under s).world = m.world := rfl
@[simp] theorem under_stack (m : Machine) (s : List Activation) : (m.under s).stack = m.stack ++ s := rfl
@[simp] theorem under_signal (m : Machine) (s : List Activation) : (m.under s).signal = m.signal := rfl

/-! ## Into a caller's code and back -/

theorem firstPoll_under (d : DrainId) (x : ServiceId) (timeout : Span) :
    firstPoll w (t ++ s) d x timeout = (firstPoll w t d x timeout).under s := by
  unfold firstPoll
  split
  · rfl
  · simp only
    split <;> rfl

theorem finish_under : finish w (t ++ s) after = (finish w t after).under s := by
  unfold finish
  split
  · rfl
  · split <;> rfl
  · split <;> rfl
  · exact firstPoll_under _ _ _
  · rfl

theorem deliver_under : deliver w (t ++ s) c after = (deliver w t c after).under s := by
  unfold deliver
  split
  · exact finish_under
  · split
    · exact finish_under
    · rfl

theorem dispatch_under : dispatch w (t ++ s) c after = (dispatch w t c after).under s := by
  unfold dispatch
  split
  · exact finish_under
  · split
    · exact finish_under
    · exact deliver_under

theorem nextHook_under {h : Hook} {others : List Listener} :
    nextHook w (t ++ s) c h others after = (nextHook w t c h others after).under s := by
  unfold nextHook
  split
  · exact deliver_under
  · rfl

theorem fire_under {g : GateId} {callback : Option DrainCallback} :
    fire w (t ++ s) g callback after = (fire w t g callback after).under s := by
  unfold fire
  split
  · exact finish_under
  · simp only
    split
    · rfl
    · split
      · exact finish_under
      · split
        · exact dispatch_under
        · exact finish_under

/-! ## Operations -/

theorem acquire_under (g : GateId) (p : PermitId) :
    acquire w (t ++ s) g p = (acquire w t g p).under s := by
  unfold acquire
  split
  · split
    · rfl
    · exact fire_under
  · rfl

theorem giveBack_under (g : GateId) (p : PermitId) :
    giveBack w (t ++ s) g p = (giveBack w t g p).under s := by
  unfold giveBack
  split
  · rfl
  · split
    · exact fire_under
    · rfl

theorem letGo_under (p : Permit) : letGo w (t ++ s) p after = (letGo w t p after).under s := by
  unfold letGo
  split
  · exact finish_under
  · exact fire_under

theorem releaseVia_under (g : GateId) (p : Permit) :
    releaseVia w (t ++ s) g p = (releaseVia w t g p).under s := by
  unfold releaseVia
  split
  · split
    · exact giveBack_under _ _
    · exact letGo_under _
  · rfl

theorem releaseTicket_under (g : GateId) (k : Ticket) :
    releaseTicket w (t ++ s) g k = (releaseTicket w t g k).under s := by
  unfold releaseTicket
  split
  · rfl
  · split
    · exact giveBack_under _ _
    · rfl

theorem suspend_under : suspend w (t ++ s) c after = (suspend w t c after).under s := by
  unfold suspend
  split
  · rfl
  · split
    · exact dispatch_under
    · exact finish_under

theorem resume_under : resume w (t ++ s) c after = (resume w t c after).under s := by
  unfold resume
  split
  · rfl
  · split
    · exact finish_under
    · exact dispatch_under

theorem suspendService_under (x : ServiceId) (after : CoordinatorId → After) :
    suspendService w (t ++ s) x after = (suspendService w t x after).under s := by
  unfold suspendService
  split
  · rfl
  · exact suspend_under

theorem resumeService_under (x : ServiceId) (after : CoordinatorId → After) :
    resumeService w (t ++ s) x after = (resumeService w t x after).under s := by
  unfold resumeService
  split
  · rfl
  · exact resume_under

theorem startDrain_under (d : DrainId) (x : ServiceId) (timeout : Span) :
    startDrain w (t ++ s) d x timeout = (startDrain w t d x timeout).under s := by
  unfold startDrain
  split
  · exact suspendService_under _ _
  · rfl

theorem pollAt_under (d : DrainId) (deadline : Drain → Nat) (late : World → DrainError → World) :
    pollAt w (t ++ s) d deadline late = (pollAt w t d deadline late).under s := by
  unfold pollAt
  split
  · rfl
  · split
    · rfl
    · split <;> rfl

theorem shutdown_under (x : ServiceId) (r : Reply) :
    shutdown w (t ++ s) x r = (shutdown w t x r).under s := by
  unfold shutdown
  split <;> rfl

theorem respond_under (p : Permit) (r : Response) :
    respond w (t ++ s) p r = (respond w t p r).under s := by
  unfold respond
  split
  · rfl
  · split
    · exact fire_under
    · rfl

theorem command_under (x : ServiceId) (o : Command) (head : Bool) :
    command w (t ++ s) x o head = (command w t x o head).under s := by
  unfold command
  split
  · rfl
  · cases o with
    | health | state => rfl
    | suspend => exact suspendService_under _ _
    | resume => exact resumeService_under _ _
    | shutdown => exact shutdown_under _ _

theorem behindGate_under (g : GateId) (l : Landing) (q : Request) (p : PermitId) :
    behindGate w (t ++ s) g l q p = (behindGate w t g l q p).under s := by
  unfold behindGate
  split
  · split
    · split
      · rfl
      · exact respond_under _ _
    · exact fire_under
  · rfl

theorem request_under (site : Site) (q : Request) (p : PermitId) :
    request w (t ++ s) site q p = (request w t site q p).under s := by
  unfold request
  split
  · exact command_under _ _ _
  · exact behindGate_under _ _ _ _
  · rfl

/-- **An operation does not see what has called the code that calls it.** -/
theorem perform_under (op : Op) : perform w (t ++ s) op = (perform w t op).under s := by
  cases op with
  | acquire g p => exact acquire_under g p
  | release p => exact giveBack_under p.gate p.id
  | releaseVia g p => exact releaseVia_under g p
  | drop p => exact letGo_under p
  | releaseTicket g k => exact releaseTicket_under g k
  | suspend c => exact suspend_under
  | resume c => exact resume_under
  | suspendService x => exact suspendService_under x _
  | resumeService x => exact resumeService_under x _
  | shutdown x => exact shutdown_under x _
  | startDrain d x timeout => exact startDrain_under d x timeout
  | pollDrain d => exact pollAt_under d _ _
  | giveUpDrain d => exact pollAt_under d _ _
  | request site q p => exact request_under site q p
  | removeGate c g =>
    simp only [perform, removeGate]
    split
    · rfl
    · exact dispatch_under
  | addListener c l offer =>
    simp only [perform, addListener]
    split
    · rfl
    · split <;> rfl
  | cancelRequest r =>
    simp only [perform, cancelRequest]
    split
    · rfl
    · exact letGo_under _
  | newGate | beginDrain | reopen | newCoordinator | shareCoordinator | registerGate | addGate
  | removeListener | newService | cancelDrain | finishRequest =>
    simp only [perform, newGate, beginDrain, reopen, newCoordinator, shareCoordinator, registerGate,
      addGate, removeListener, newService, cancelDrain, finishRequest]
    split <;> rfl
  | dropCoordinator | dropService | advance => rfl

/-! ## Moves -/

/-- **A move of code that some code has called** does not see what has called that. -/
theorem step_under {m : Machine} {move : Move} (h : m.stack ≠ [] ∨ ∃ op, move = .call op) :
    step (m.under s) move = (step m move).under s := by
  obtain ⟨w, t, signal⟩ := m
  by_cases hab : signal = .aborted
  · simp only [step, under_signal, hab, if_true]
  simp only [step, under_signal, under_world, under_stack, hab, if_false]
  cases move with
  | call op => exact perform_under op
  | ret r =>
    cases t with
    | nil => simp at h
    | cons a t =>
      cases a with
      | callback => exact finish_under
      | hook => exact nextHook_under
      | handler a => exact respond_under _ _
  | panic payload =>
    cases t with
    | nil => simp at h
    | cons a t =>
      cases a with
      | callback g code after => cases after <;> rfl
      | hook => exact nextHook_under
      | handler a => exact letGo_under _
  | park r =>
    cases t with
    | nil => simp at h
    | cons a t =>
      cases a with
      | callback | hook => rfl
      | handler a =>
        simp only [List.cons_append, park]
        split <;> rfl

/-- Each of the moves is made by code that this code has called. -/
def Above (s : List Activation) (m : Machine) : List Move → Prop
  | [] => True
  | move :: moves => (∃ a t, m.stack = a :: t ++ s) ∧ Above s (step m move) moves

/-! ## Operations that are under way -/

/-- Whatever has called it and whatever is to come, all that is left has ended, or a hook is entered. -/
def Blind (f : List Activation → After → Machine) : Prop :=
  (∃ v, ∀ s after, f s after = finish v s after) ∨
    ∃ v c h l others, ∀ s after, f s after = enterHook v s c h l others after

theorem deliver_blind (w : World) (c : CoordinatorId) : Blind fun s after => deliver w s c after := by
  cases hk : w.coordinators c with
  | none => exact .inl ⟨w, fun s after => by simp only [deliver, hk]⟩
  | some k =>
    cases ho : k.outbox with
    | nil => exact .inl ⟨_, fun s after => by simp only [deliver, hk, ho]; rfl⟩
    | cons n rest => exact .inr ⟨_, _, _, _, _, fun s after => by simp only [deliver, hk, ho]; rfl⟩

theorem dispatch_blind (w : World) (c : CoordinatorId) : Blind fun s after => dispatch w s c after := by
  cases hk : w.coordinators c with
  | none => exact .inl ⟨w, fun s after => by simp only [dispatch, hk]⟩
  | some k =>
    cases hd : k.dispatching with
    | true => exact .inl ⟨w, fun s after => by simp only [dispatch, hk, hd, if_true]⟩
    | false =>
      have e : (fun s after => dispatch w s c after) =
          fun s after => deliver (w.setCoordinator c { k with dispatching := true }) s c after := by
        funext s after
        simp [dispatch, hk, hd]
      rw [e]
      exact deliver_blind _ c

theorem nextHook_blind (w : World) (c : CoordinatorId) (h : Hook) (others : List Listener) :
    Blind fun s after => nextHook w s c h others after := by
  cases others with
  | nil => exact deliver_blind w c
  | cons l ls => exact .inr ⟨w, c, h, l, ls, fun _ _ => rfl⟩

theorem suspend_blind {k : Coordinator} (hk : w.coordinators c = some k) :
    Blind fun s after => suspend w s c after := by
  by_cases hs : k.state = .running
  · have e : (fun s after => suspend w s c after) = fun s after => dispatch (w.suspend c k) s c after := by
      funext s after
      simp only [suspend, hk, hs, if_true]
    rw [e]
    exact dispatch_blind _ c
  · exact .inl ⟨w, fun s after => by simp only [suspend, hk, hs, if_false]⟩

theorem resume_blind {k : Coordinator} (hk : w.coordinators c = some k) :
    Blind fun s after => resume w s c after := by
  by_cases hs : k.state = .running
  · exact .inl ⟨w, fun s after => by simp only [resume, hk, hs, if_true]⟩
  · have e : (fun s after => resume w s c after) = fun s after => dispatch (w.resume c k) s c after := by
      funext s after
      simp only [resume, hk, hs, if_false]
    rw [e]
    exact dispatch_blind _ c

/-- The same operation is under way in two machines, called from the same code, and is to go on with one
thing in the first and with another in the second. -/
inductive Tandem (s : List Activation) (a₁ a₂ : After) : Machine → Machine → Prop
  /-- It has entered a hook, and that may have called more. -/
  | inside {w : World} {t : List Activation} {c : CoordinatorId} {h l others signal} :
      Tandem s a₁ a₂ ⟨w, t ++ .hook c h l others a₁ :: s, signal⟩
        ⟨w, t ++ .hook c h l others a₂ :: s, signal⟩
  | back {w : World} : Tandem s a₁ a₂ (finish w s a₁) (finish w s a₂)

variable {a₁ a₂ : After} {m₁ m₂ : Machine}

theorem tandem_of_blind {f : List Activation → After → Machine} (h : Blind f) :
    Tandem s a₁ a₂ (f s a₁) (f s a₂) := by
  rcases h with ⟨v, hf⟩ | ⟨v, c, h, l, others, hf⟩ <;> rw [hf, hf]
  · exact .back
  · exact .inside (t := [])

/-- A move of code above, or a call of the hook, leaves what the hook is to go on with. -/
theorem tandem_under (m : Machine) {move : Move} (c : CoordinatorId) (h : Hook) (l : Listener)
    (others : List Listener) (hm : m.stack ≠ [] ∨ ∃ op, move = .call op) :
    Tandem s a₁ a₂ (step (m.under (.hook c h l others a₁ :: s)) move)
      (step (m.under (.hook c h l others a₂ :: s)) move) := by
  rw [step_under hm, step_under hm]
  exact .inside

theorem Tandem.step {move : Move} (h : Tandem s a₁ a₂ m₁ m₂) (ha : ∃ a t, m₂.stack = a :: t ++ s) :
    Tandem s a₁ a₂ (step m₁ move) (step m₂ move) := by
  cases h with
  | @back w =>
    -- it is back, so no code that it has entered moves
    obtain ⟨a, t, hs⟩ := ha
    rw [finish_stack] at hs
    have hlen := congrArg List.length hs
    simp only [List.length_append, List.length_cons] at hlen
    omega
  | @inside w t c h l others signal =>
    by_cases hab : signal = .aborted
    · simp only [Machine.step, hab, if_true]
      exact .inside
    cases t with
    | cons a t => exact tandem_under ⟨w, a :: t, signal⟩ c h l others (.inl (List.cons_ne_nil a t))
    | nil =>
      -- the hook itself moves
      cases move with
      | call op => exact tandem_under ⟨w, [], signal⟩ c h l others (.inr ⟨op, rfl⟩)
      | ret r =>
        simp only [Machine.step, hab, if_false]
        exact tandem_of_blind (nextHook_blind w c h others)
      | panic payload =>
        simp only [Machine.step, hab, if_false]
        exact tandem_of_blind (nextHook_blind (w.alert (.listenerPanicked l.name h.name payload)) c h others)
      | park r =>
        simp only [Machine.step, hab, if_false]
        exact .inside (t := [])

/-- **All goes the same until the operation is back.** -/
theorem Tandem.run {moves : List Move} (h : Tandem s a₁ a₂ m₁ m₂) (ha : Above s m₂ moves) :
    Tandem s a₁ a₂ (run m₁ moves) (run m₂ moves) := by
  induction moves generalizing m₁ m₂ with
  | nil => exact h
  | cons move moves ih => exact ih (h.step ha.1) ha.2

end Sluice.Machine
