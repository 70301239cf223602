import Sluice.Proofs.Callbacks

/-!
# No callback runs out of turn

A callback runs with the last permit of a gate that drains, and at no other time. It is the one with which
the gate was closed last, so it runs once at most, and not at all once the gate has been opened again.

* `Books.firings`: the callbacks that have run. `Silent`, `Fires`: what a move has come to, that is no
  callback or that of one gate, which is drained by then. `step_fires`: **every move has come to one of
  the two**, since a move takes back one permit at most.
* `Pledged.answers`: a callback that has run answers the closing of its gate before which nothing but
  work came.
* `callback_justified`: when callbacks run, how often, and what is left of one that panics.
-/

namespace Sluice

/-- Whether a callback has run. -/
def Occurrence.isFiring : Occurrence → Bool
  | .fired _ _ => true
  | _ => false

/-- The callbacks that have run, newest first. -/
def Books.firings (b : Books) : List Occurrence := b.entries.filter (·.isFiring)

namespace World

variable {w : World} {c : CoordinatorId} {k : Coordinator} {g : GateId} {x : Gate} {o : Occurrence}

theorem note_firings (h : o.isFiring = false) : (w.note o).books.firings = w.books.firings := by
  cases he : o.isEntry with
  | false => rw [note_books he]
  | true =>
    rw [note_books_of_entry he]
    exact List.filter_cons_of_neg (by rw [h]; decide)

theorem beginDrain_firings (cb : DrainCallback) :
    (w.beginDrain g x cb).1.books.firings = w.books.firings := note_firings rfl

theorem closeAll_firings (cb : DrainCallback) (gs : List GateId) (w : World) :
    (w.closeAll cb gs).1.books.firings = w.books.firings := by
  induction gs generalizing w with
  | nil => rfl
  | cons g gs ih =>
    unfold closeAll
    split
    · exact ih w
    · exact (ih _).trans (beginDrain_firings cb)

theorem openAll_firings (gs : List GateId) (w : World) :
    (w.openAll gs).books.firings = w.books.firings := by
  induction gs generalizing w with
  | nil => rfl
  | cons g gs ih =>
    unfold openAll
    split
    · exact ih w
    · exact (ih _).trans (note_firings rfl)

theorem suspend_firings (w : World) (c : CoordinatorId) (k : Coordinator) :
    (w.suspend c k).books.firings = w.books.firings := by
  have hclose := closeAll_firings (.report c (k.generation + 1)) k.gates
    ((w.setCoordinator c k.closing).note (.entered c .suspending k.listeners))
  rw [note_books rfl, setCoordinator_books] at hclose
  rw [suspend_eq]
  simp only
  split
  · rw [complete_books, hclose]
  · exact hclose

theorem resume_firings (w : World) (c : CoordinatorId) (k : Coordinator) :
    (w.resume c k).books.firings = w.books.firings := by
  unfold resume
  rw [openAll_firings, enter_books]

theorem addGate_firings : (w.addGate c k g x).books.firings = w.books.firings := by
  have hclose := beginDrain_firings (w := w) (g := g) (x := x) (.report c k.generation)
  unfold addGate
  split
  · rw [alert_books]
  · split
    · simp only
      split
      · exact hclose
      · rw [setCoordinator_books]
        split
        · exact hclose
        · rw [alert_books]
          exact hclose
    · rfl

end World

namespace Machine

open World

/-- No callback has run, and if a caller's code is entered it is another. -/
structure Silent (b : Books) (m : Machine) : Prop where
  firings : m.world.books.firings = b.firings
  entered : m.signal = .entered → ∀ g code after s, m.stack ≠ .callback g code after :: s

/-- A gate that drained has taken its last permit back and is drained, and its callback runs. -/
structure Fires (b : Books) (m : Machine) (g : GateId) (x : Gate) (p : PermitId) (cb : DrainCallback) :
    Prop where
  gate : b.gates g = some x
  draining : x.state = .draining
  last : x.permits = [p] ∧ x.outstanding = 1
  callback : x.callback = some cb
  books : m.world.books =
    ⟨b.gates.set g { name := x.name, state := .drained }, b.issuer,
      .fired g cb :: .returned g p :: b.entries⟩
  runs : ∀ code, cb = .run code → (∃ after s, m.stack = .callback g code after :: s) ∧ m.signal = .entered
  entered : m.signal = .entered → ∀ f code after s, m.stack = .callback f code after :: s → f = g

/-- What a move has come to: no callback has run, or that of one gate. -/
def FiresOnce (b : Books) (m : Machine) : Prop := Silent b m ∨ ∃ g x p cb, Fires b m g x p cb

variable {w : World} {s : List Activation} {b : Books} {c : CoordinatorId} {after : After} {m : Machine}

/-! ## What runs no callback -/

theorem reply_signal_ne (w : World) (s : List Activation) (r : Reply) :
    (reply w s r).signal ≠ .entered :=
  nofun

theorem silent_reply (r : Reply) (h : w.books.firings = b.firings) : Silent b (reply w s r) :=
  ⟨h, fun he => absurd he (reply_signal_ne w s r)⟩

/-- The code of a request's handler is no callback. -/
theorem silent_handler (a : Admission) (h : w.books.firings = b.firings) :
    Silent b ⟨w, .handler a :: s, .entered⟩ :=
  ⟨h, fun _ _ _ _ _ => nofun⟩

theorem finish_silent (w : World) (s : List Activation) (after : After) :
    Silent w.books (finish w s after) := by
  refine ⟨by rw [finish_books], fun he => ?_⟩
  -- what is left of an operation enters no code
  have hne : (finish w s after).signal ≠ .entered := by
    unfold finish
    split
    · exact reply_signal_ne _ _ _
    · split <;> exact reply_signal_ne _ _ _
    · split <;> exact reply_signal_ne _ _ _
    · unfold firstPoll
      split
      · exact reply_signal_ne _ _ _
      · simp only
        split <;> exact reply_signal_ne _ _ _
    · simp
  exact absurd he hne

theorem enterHook_silent (w : World) (s : List Activation) (c : CoordinatorId) (h : Hook) (l : Listener)
    (others : List Listener) (after : After) : Silent w.books (enterHook w s c h l others after) :=
  ⟨by rw [enterHook_books], fun _ _ _ _ _ => nofun⟩

theorem deliver_silent (w : World) (s : List Activation) (c : CoordinatorId) (after : After) :
    Silent w.books (deliver w s c after) := by
  unfold deliver
  split
  · exact finish_silent w s after
  · split
    · exact finish_silent (w.setCoordinator c _) s after
    · exact enterHook_silent (w.setCoordinator c _) s c _ _ _ after

theorem dispatch_silent (w : World) (s : List Activation) (c : CoordinatorId) (after : After) :
    Silent w.books (dispatch w s c after) := by
  unfold dispatch
  split
  · exact finish_silent w s after
  · split
    · exact finish_silent w s after
    · exact deliver_silent (w.setCoordinator c _) s c after

theorem nextHook_silent (w : World) (s : List Activation) (c : CoordinatorId) (h : Hook)
    (others : List Listener) (after : After) : Silent w.books (nextHook w s c h others after) := by
  unfold nextHook
  split
  · exact deliver_silent w s c after
  · exact enterHook_silent w s c h _ _ after

theorem Silent.of_firings {b' : Books} (h : Silent b' m) (hb : b'.firings = b.firings) : Silent b m :=
  ⟨h.firings.trans hb, h.entered⟩

theorem suspend_silent : Silent w.books (suspend w s c after) := by
  unfold suspend
  split
  · exact silent_reply _ rfl
  · rename_i k _
    split
    · exact (dispatch_silent _ s c after).of_firings (suspend_firings w c k)
    · exact finish_silent w s after

theorem resume_silent : Silent w.books (resume w s c after) := by
  unfold resume
  split
  · exact silent_reply _ rfl
  · rename_i k _
    split
    · exact finish_silent w s after
    · exact (dispatch_silent _ s c after).of_firings (resume_firings w c k)

theorem suspendService_silent (x : ServiceId) (after : CoordinatorId → After) :
    Silent w.books (suspendService w s x after) := by
  unfold suspendService
  split
  · exact silent_reply _ rfl
  · exact suspend_silent

theorem resumeService_silent (x : ServiceId) (after : CoordinatorId → After) :
    Silent w.books (resumeService w s x after) := by
  unfold resumeService
  split
  · exact silent_reply _ rfl
  · exact resume_silent

theorem pollAt_silent (d : DrainId) (deadline : Drain → Nat) (late : World → DrainError → World)
    (hlate : ∀ v e, (late v e).books = v.books) : Silent w.books (pollAt w s d deadline late) := by
  unfold pollAt
  split
  · exact silent_reply _ rfl
  rename_i x _
  split
  · exact silent_reply _ rfl
  rename_i k _
  have hpoll := poll_books w k { x with deadline := deadline x }
  generalize w.poll k { x with deadline := deadline x } = po at hpoll ⊢
  obtain ⟨v, o⟩ := po
  have hend (u : World) (hu : u.books = v.books) :
      Silent w.books (reply ({ u with drains := u.drains.erase d }.dropService x.service) s (.drain o)) := by
    refine silent_reply _ ?_
    rw [dropService_books, ← hpoll]
    exact congrArg Books.firings hu
  cases o with
  | pending => exact silent_reply _ (congrArg Books.firings hpoll)
  | drained => exact hend v rfl
  | timedOut e => exact hend _ (hlate v e)

/-! ## What takes a permit back -/

/-- The last permit of a gate that drains comes back, and the callback runs. -/
theorem fire_fires {g : GateId} {x y : Gate} {p : PermitId} {cb : DrainCallback}
    (hg : w.gates g = some x) (hx : x.Sound) (hr : x.release? p = some (y, some cb)) :
    Fires w.books (fire ((w.setGate g y).note (.returned g p)) s g (some cb) after) g x p cb := by
  obtain ⟨-, hout, hperm, hname, hp, hcase⟩ := Gate.release?_cases hx hr
  -- a callback is handed out with the last permit only
  obtain ⟨h1, hd, hs, hcb, hxcb⟩ : x.outstanding = 1 ∧ x.state = .draining ∧ y.state = .drained ∧
      y.callback = none ∧ some cb = x.callback := by
    rcases hcase with h | ⟨-, -, -, hnone⟩
    · exact h
    · cases hnone
  have hlast : x.permits = [p] := by
    have hlen : x.permits.length = 1 := by
      have := hx.count
      omega
    obtain ⟨q, hq⟩ := List.length_eq_one_iff.1 hlen
    rw [hq, List.mem_singleton] at hp
    rw [hq, hp]
  have hy : y = { name := x.name, state := .drained } := by
    obtain ⟨name, state, outstanding, permits, callback⟩ := y
    simp only at hname hs hout hperm hcb
    rw [h1] at hout
    rw [hlast, List.erase_cons_head] at hperm
    subst hname hs hout hperm hcb
    rfl
  have hb := fire_books ((w.setGate g y).note (.returned g p)) s g (some cb) after
  rw [note_books_of_entry rfl] at hb
  refine ⟨hg, hd, ⟨hlast, h1⟩, hxcb.symm, hy ▸ hb, ?_, fun he f code after' s' hst => ?_⟩
  · rintro code rfl
    exact ⟨⟨after, s, rfl⟩, rfl⟩
  · -- a coordinator that is told enters hooks, if anything
    rcases fire_cases ((w.setGate g y).note (.returned g p)) s g (some cb) after with
      ⟨-, hnone⟩ | ⟨cb', -, ⟨code', -, e⟩ | ⟨c, n, k, -, -, -, e⟩ | ⟨c, n, -, -, e⟩⟩
    · cases hnone
    · rw [e] at hst
      cases hst
      rfl
    · rw [e] at he hst
      exact absurd hst ((dispatch_silent _ s c after).entered he f code after' s')
    · rw [e] at he hst
      exact absurd hst ((finish_silent _ s after).entered he f code after' s')

theorem fire_none_silent (w : World) (s : List Activation) (g : GateId) (after : After) :
    Silent w.books (fire w s g none after) := finish_silent w s after

/-- A permit comes back, and the callback that the gate hands out runs. -/
theorem fire_once {g : GateId} {x y : Gate} {p : PermitId} {callback : Option DrainCallback}
    (hg : w.gates g = some x) (hx : x.Sound) (hr : x.release? p = some (y, callback)) :
    FiresOnce w.books (fire ((w.setGate g y).note (.returned g p)) s g callback after) := by
  cases callback with
  | none => exact .inl ((fire_none_silent _ s g after).of_firings (note_firings rfl))
  | some cb => exact .inr ⟨g, x, p, cb, fire_fires hg hx hr⟩

theorem giveBack_once (hw : w.Sound) (g : GateId) (p : PermitId) :
    FiresOnce w.books (giveBack w s g p) := by
  unfold giveBack
  split
  · exact .inl (silent_reply _ rfl)
  · rename_i x hg
    simp only [World.release]
    cases hr : x.release? p with
    | none => exact .inl (silent_reply _ (congrArg Books.firings (alert_books w _)))
    | some y => exact fire_once hg (hw.gates g x hg) hr

theorem letGo_once (hw : w.Sound) (p : Permit) (after : After) :
    FiresOnce w.books (letGo w s p after) := by
  unfold letGo
  split
  · exact .inl (finish_silent w s after)
  · rename_i x hg
    simp only [World.drop, World.release]
    cases hr : x.release? p.id with
    | none =>
      refine .inl ((fire_none_silent _ s p.gate after).of_firings ?_)
      rw [alert_books, alert_books]
    | some y => exact fire_once hg (hw.gates p.gate x hg) hr

theorem respond_once (hw : w.Sound) (p : Permit) (r : Http.Response) :
    FiresOnce w.books (respond w s p r) := by
  unfold respond
  split
  · exact .inl (silent_reply _ rfl)
  · rename_i x hg
    simp only [World.release]
    cases hr : x.release? p.id with
    | none =>
      refine .inl (silent_reply _ ?_)
      rw [alert_books, alert_books]
    | some y => exact fire_once hg (hw.gates p.gate x hg) hr

theorem turnAway_silent {g : GateId} {x : Gate} (hw : w.Sound) (hg : w.gates g = some x)
    (after : After) : Silent w.books (fire (w.turnAway g x).1 s g (w.turnAway g x).2 after) := by
  rw [turnAway_eq hg (hw.gates g x hg)]
  exact fire_none_silent w s g after

/-! ## Moves -/

theorem command_silent (x : ServiceId) (k : Http.Command) (head : Bool) :
    Silent w.books (command w s x k head) := by
  unfold command
  split
  · exact silent_reply _ rfl
  · cases k with
    | health => exact silent_reply _ rfl
    | state => exact silent_reply _ rfl
    | suspend => exact suspendService_silent x _
    | resume => exact resumeService_silent x _
    | shutdown =>
      simp only [shutdown]
      split <;> exact silent_reply _ rfl

/-- A gate that has just let work in is open, so no callback runs when the work is answered at once. -/
theorem respond_silent {g : GateId} {x : Gate} {p : PermitId} (hw : w.Sound) (hg : w.gates g = some x)
    (ho : x.isOpen = true) (r : Http.Response) :
    Silent w.books (respond (w.letIn g x p) s ⟨p, g⟩ r) := by
  have hin : (w.letIn g x p).gates g = some (x.letIn p) := Table.set_self _ _ _
  obtain ⟨y, cb, hr⟩ := Gate.exists_release? (x := x.letIn p) List.mem_cons_self
  obtain ⟨-, -, -, -, -, hcase⟩ := Gate.release?_cases ((hw.gates g x hg).letIn ho) hr
  have hrun : (x.letIn p).state = .running := of_decide_eq_true ho
  have hcb : cb = none := by
    rcases hcase with ⟨-, hd, -⟩ | ⟨-, -, -, hnone⟩
    · rw [hrun] at hd
      cases hd
    · exact hnone
  unfold respond
  simp only [hin, World.release, hr, hcb]
  refine (fire_none_silent _ s g _).of_firings ?_
  exact (note_firings rfl).trans (note_firings rfl)

theorem behindGate_silent (hw : w.Sound) (g : GateId) (l : Http.Landing) (q : Http.Request) (p : PermitId) :
    Silent w.books (behindGate w s g l q p) := by
  unfold behindGate
  split
  · rename_i x hg _
    split
    · rename_i ho
      split
      · exact silent_handler _ (note_firings rfl)
      · -- a permit is taken and given back
        exact respond_silent hw hg ho _
    · exact turnAway_silent hw hg _
  · exact silent_reply _ rfl

theorem request_silent (hw : w.Sound) (site : Http.Site) (q : Http.Request) (p : PermitId) :
    Silent w.books (request w s site q p) := by
  unfold request
  split
  · exact command_silent _ _ _
  · exact behindGate_silent hw _ _ _ _
  · exact silent_reply _ rfl

theorem perform_once (hw : w.Sound) (op : Op) : FiresOnce w.books (perform w s op) := by
  cases op with
  | release p => exact giveBack_once hw p.gate p.id
  | releaseVia g p =>
    simp only [perform, releaseVia]
    split
    · rename_i x y _ _
      split
      · exact giveBack_once hw g p.id
      · -- the log says that it is the wrong gate
        rw [← alert_books w (.wrongGate x.name y.name p.id)]
        exact letGo_once (hw.alike (alike_note w _)) p _
    · exact .inl (silent_reply _ rfl)
  | releaseTicket g t =>
    simp only [perform, releaseTicket]
    split
    · exact .inl (silent_reply _ rfl)
    · split
      · exact giveBack_once hw g t.permit
      · exact .inl (silent_reply _ (congrArg Books.firings (alert_books w _)))
  | drop p => exact letGo_once hw p _
  | cancelRequest r =>
    simp only [perform, cancelRequest]
    split
    · exact .inl (silent_reply _ rfl)
    · have hv : ({ w with waiting := w.waiting.erase r } : World).Sound :=
        hw.alike ⟨rfl, fun _ k hk => ⟨k, hk, .refl k⟩⟩
      exact letGo_once hv _ _
  | newGate g name =>
    simp only [perform, newGate]
    split <;> exact .inl (silent_reply _ rfl)
  | acquire g p =>
    simp only [perform, acquire]
    split
    · rename_i x hg _
      split
      · exact .inl (silent_reply _ (note_firings rfl))
      · exact .inl (turnAway_silent hw hg _)
    · exact .inl (silent_reply _ rfl)
  | beginDrain g code =>
    simp only [perform, beginDrain]
    split
    · exact .inl (silent_reply _ rfl)
    · exact .inl (silent_reply _ (beginDrain_firings _))
  | reopen g =>
    simp only [perform, reopen]
    split
    · exact .inl (silent_reply _ rfl)
    · exact .inl (silent_reply _ (note_firings rfl))
  | newCoordinator c =>
    simp only [perform, newCoordinator]
    split <;> exact .inl (silent_reply _ rfl)
  | shareCoordinator c =>
    simp only [perform, shareCoordinator]
    split <;> exact .inl (silent_reply _ rfl)
  | dropCoordinator c => exact .inl (silent_reply _ (congrArg Books.firings (dropCoordinator_books w c)))
  | suspend c => exact .inl suspend_silent
  | resume c => exact .inl resume_silent
  | registerGate c g name =>
    simp only [perform, registerGate]
    split
    · exact .inl (silent_reply _ addGate_firings)
    · exact .inl (silent_reply _ rfl)
  | addGate c g =>
    simp only [perform, addGate]
    split
    · exact .inl (silent_reply _ addGate_firings)
    · exact .inl (silent_reply _ rfl)
  | removeGate c g =>
    simp only [perform, removeGate]
    split
    · exact .inl (silent_reply _ rfl)
    · rename_i k _
      refine .inl ((dispatch_silent _ s c _).of_firings ?_)
      exact congrArg Books.firings (strike_books _ _ _ _)
  | addListener c l offer =>
    simp only [perform, addListener]
    split
    · exact .inl (silent_reply _ rfl)
    · split
      · exact .inl (silent_reply _ (note_firings rfl))
      · exact .inl (silent_reply _ (note_firings rfl))
      · exact .inl (silent_reply _ ((note_firings rfl).trans (note_firings rfl)))
  | removeListener c l =>
    simp only [perform, removeListener]
    split
    · exact .inl (silent_reply _ rfl)
    · exact .inl (silent_reply _ (note_firings rfl))
  | newService x c =>
    simp only [perform, newService]
    split <;> exact .inl (silent_reply _ rfl)
  | dropService x => exact .inl (silent_reply _ (congrArg Books.firings (dropService_books w x)))
  | suspendService x => exact .inl (suspendService_silent x _)
  | resumeService x => exact .inl (resumeService_silent x _)
  | shutdown x =>
    simp only [perform, shutdown]
    split <;> exact .inl (silent_reply _ rfl)
  | startDrain d x timeout =>
    simp only [perform, startDrain]
    split
    · exact .inl (suspendService_silent (w := w.setService x _) x _)
    · exact .inl (silent_reply _ rfl)
  | pollDrain d => exact .inl (pollAt_silent d _ _ fun _ _ => rfl)
  | giveUpDrain d => exact .inl (pollAt_silent d _ _ fun v _ => alert_books v _)
  | cancelDrain d =>
    simp only [perform, cancelDrain]
    split
    · exact .inl (silent_reply _ rfl)
    · exact .inl (silent_reply _ (congrArg Books.firings (dropService_books _ _)))
  | request site q p => exact .inl (request_silent hw site q p)
  | finishRequest r =>
    simp only [perform, finishRequest]
    split
    · exact .inl (silent_reply _ rfl)
    · exact .inl (silent_handler _ rfl)
  | advance nanos => exact .inl (silent_reply _ rfl)

theorem ret_once (hw : w.Sound) (r : Http.Response) (s : List Activation) :
    FiresOnce w.books (ret w r s) := by
  unfold ret
  split
  · exact .inl ⟨rfl, nofun⟩
  · exact .inl (finish_silent w _ _)
  · exact .inl (nextHook_silent w _ _ _ _ _)
  · exact respond_once hw _ _

theorem panic_once (hw : w.Sound) (payload : Payload) (s : List Activation) :
    FiresOnce w.books (panic w payload s) := by
  unfold panic
  split
  · exact .inl ⟨rfl, nofun⟩
  · exact .inl ⟨rfl, nofun⟩
  · exact .inl ⟨rfl, nofun⟩
  · rename_i c h l others after rest
    rw [← alert_books w (.listenerPanicked l.name h.name payload)]
    exact .inl (nextHook_silent _ rest c h others after)
  · exact letGo_once hw _ _

theorem park_silent (r : RequestId) (s : List Activation) : Silent w.books (park w r s) := by
  unfold park
  split
  · split <;> exact ⟨rfl, nofun⟩
  · exact ⟨rfl, nofun⟩

/-- **A move runs one callback at most**, with the last permit of a gate that drains. -/
theorem step_fires {m : Machine} (hw : m.world.Sound) (move : Move) :
    FiresOnce m.world.books (step m move) := by
  unfold step
  split
  · rename_i ha
    exact .inl ⟨rfl, fun he => by rw [ha] at he; cases he⟩
  · cases move with
    | call op => exact perform_once hw op
    | ret r => exact ret_once hw r m.stack
    | panic payload => exact panic_once hw payload m.stack
    | park r => exact .inl (park_silent r m.stack)

/-! ## Callbacks and closings -/

section Pledged

variable {g : GateId} {x : Option Gate} {h new mid old later since : List Occurrence}
  {cb : DrainCallback} {d : Bool}

/-- **A callback that has run answers the closing that it came with**, unless it has come again since: the
gate kept it, and nothing but work has come in between. -/
theorem Pledged.answers (hp : Pledged g x h) (hh : h = new ++ .fired g cb :: (mid ++ .closed g cb d :: old))
    (hn : ∀ e, .closed g cb e ∉ mid) : d = false ∧ ∀ o ∈ mid, o.isWork = true := by
  obtain ⟨p, work, rest, he, hw⟩ := hp.fired new cb _ hh
  have hwork : ∀ o ∈ .returned g p :: work, o.isWork = true := by
    intro o ho
    rcases List.mem_cons.1 ho with rfl | ho
    · rfl
    · exact hw o ho
  -- the closing that is answered is neither before this one nor after it
  rcases List.append_eq_append_iff.1 he with ⟨more, hmore, hrest⟩ | ⟨more, hmore, hrest⟩
  · cases more with
    | nil =>
      cases hrest
      rw [List.append_nil] at hmore
      exact ⟨rfl, hmore ▸ hwork⟩
    | cons o more =>
      cases hrest
      have hclosed := hwork (.closed g cb d) (hmore ▸ List.mem_append_right _ List.mem_cons_self)
      cases hclosed
  · cases more with
    | nil =>
      cases hrest
      rw [List.append_nil] at hmore
      exact ⟨rfl, hmore ▸ hwork⟩
    | cons o more =>
      cases hrest
      exact absurd (hmore ▸ List.mem_append_right _ List.mem_cons_self) (hn false)

/-- A callback runs once at most for each time that the gate is closed with it, and only if it is kept. -/
theorem Pledged.count_fired (hp : Pledged g x h) (hh : h = new ++ .closed g cb d :: old)
    (hn : ∀ e, .closed g cb e ∉ new) : new.count (.fired g cb) ≤ if d = true then 0 else 1 := by
  by_cases hm : .fired g cb ∈ new
  · -- since it ran for the last time, only work has come
    obtain ⟨later, mid, rfl, hlater⟩ := List.eq_append_cons_of_mem hm
    have hsplit : h = later ++ .fired g cb :: (mid ++ .closed g cb d :: old) := by
      rw [hh, List.append_assoc]
      rfl
    obtain ⟨rfl, hwork⟩ := hp.answers hsplit
      fun e he => hn e (List.mem_append_right _ (List.mem_cons_of_mem _ he))
    have hmid : .fired g cb ∉ mid := fun hf => nomatch hwork _ hf
    rw [List.count_append, List.count_cons_self, List.count_eq_zero.2 hlater, List.count_eq_zero.2 hmid]
    decide
  · rw [List.count_eq_zero.2 hm]
    exact Nat.zero_le _

/-- If each callback that has run answers a closing, none has run more often than the gate was closed with
it. -/
theorem count_fired_le (hf : ∀ new cb old, h = new ++ .fired g cb :: old →
      ∃ p mid rest, old = .returned g p :: mid ++ .closed g cb false :: rest ∧ ∀ o ∈ mid, o.isWork = true)
    (cb : DrainCallback) : h.count (.fired g cb) ≤ h.count (.closed g cb false) := by
  -- with the newest event, if that is a callback, all goes up to the closing that it answers
  induction hn : h.length using Nat.strongRecOn generalizing h with
  | ind n ih =>
    cases h with
    | nil => exact Nat.le_refl _
    | cons o l =>
      have hlater (pre rest : List Occurrence) (hl : l = pre ++ rest) :
          rest.count (.fired g cb) ≤ rest.count (.closed g cb false) := by
        have hlen : rest.length < n := by
          rw [← hn, hl, List.length_cons, List.length_append]
          omega
        refine ih rest.length hlen (fun new cb' old hr => ?_) rfl
        exact hf (o :: pre ++ new) cb' old (by rw [hl, hr, List.append_assoc]; rfl)
      by_cases ho : o = .fired g cb
      · subst ho
        obtain ⟨p, mid, rest, hl, hwork⟩ := hf [] cb l rfl
        have hrest := hlater (.returned g p :: mid ++ [.closed g cb false]) rest
          (by rw [hl, List.append_assoc]; rfl)
        have hmid : .fired g cb ∉ mid := fun hm => nomatch hwork _ hm
        have hfired : (Occurrence.fired g cb :: l).count (.fired g cb) = rest.count (.fired g cb) + 1 := by
          rw [List.count_cons_self, hl, List.count_append, List.count_cons_of_ne (by simp),
            List.count_eq_zero.2 hmid, List.count_cons_of_ne (by simp), Nat.zero_add]
        have hclosed : rest.count (.closed g cb false) + 1 ≤
            (Occurrence.fired g cb :: l).count (.closed g cb false) := by
          rw [List.count_cons_of_ne (by simp), hl, List.count_append, List.count_cons_self]
          omega
        omega
      · have hl := hlater [] l rfl
        rw [List.count_cons_of_ne ho]
        exact Nat.le_trans hl List.count_le_count_cons

/-- Once the gate has been opened, the callback does not run. -/
theorem Pledged.not_fired (hp : Pledged g x h)
    (hh : h = later ++ .reopened g :: since ++ .closed g cb d :: old)
    (hn : ∀ e, .closed g cb e ∉ later ++ .reopened g :: since) : .fired g cb ∉ later := by
  intro hm
  obtain ⟨after, before, rfl⟩ := List.append_of_mem hm
  have hsplit : h =
      after ++ .fired g cb :: ((before ++ .reopened g :: since) ++ .closed g cb d :: old) := by
    rw [hh]
    simp only [List.append_assoc, List.cons_append]
  obtain ⟨-, hwork⟩ := hp.answers hsplit fun e he => hn e (by
    rw [List.append_assoc, List.cons_append]
    exact List.mem_append_right _ (List.mem_cons_of_mem _ he))
  have hopened := hwork (.reopened g) (List.mem_append_right _ List.mem_cons_self)
  cases hopened

end Pledged

/-! ## When a callback runs -/

/-- What has run at a gate is a part of what has run. -/
theorem story_firings (b : Books) (g : GateId) :
    (b.story g).filter (·.isFiring) = b.firings.filter (·.befalls g) := by
  unfold Books.story Books.firings
  rw [List.filter_filter, List.filter_filter]
  congr 1
  funext o
  exact Bool.and_comm _ _

/-- What happens elsewhere is not in the story of a gate. -/
theorem Fires.story {f g : GateId} {x : Gate} {p : PermitId} {cb : DrainCallback}
    (h : Fires b m f x p cb) :
    m.world.story g = if f = g then .fired f cb :: .returned f p :: b.story g else b.story g := by
  have hfilter := filter_befalls (f := f) (g := g) [.fired f cb, .returned f p] b.entries fun o ho => by
    rcases List.mem_cons.1 ho with rfl | ho
    · rfl
    · rw [List.mem_singleton.1 ho]
      rfl
  rw [← World.story_books, h.books]
  refine hfilter.trans ?_
  split <;> rfl

/-- **No callback runs out of turn.** After any run, at any gate:

* no callback has run more often than the gate was closed with it while work was in flight;
* a callback with which the gate was closed, and not again since, has run once at most, not at all if the
  gate was drained already, and never since the gate was opened;
* who closes the gate is told whether that is so;
* a callback of the gate runs only in a move that gives the last permit of the draining gate back: when it
  starts the gate is drained, with nothing outstanding, and it is the one with which the gate was closed;
* what happens to gates is the same whether a callback comes back or panics. -/
theorem callback_justified (moves : List Move) (g : GateId) :
    let m := run {} moves
    (∀ cb, (m.world.story g).count (.fired g cb) ≤ (m.world.story g).count (.closed g cb false)) ∧
      (∀ new cb d old, m.world.story g = new ++ .closed g cb d :: old → (∀ e, .closed g cb e ∉ new) →
        new.count (.fired g cb) ≤ (if d = true then 0 else 1) ∧
          ∀ later since, new = later ++ .reopened g :: since → .fired g cb ∉ later) ∧
      (m.signal ≠ .aborted → ∀ x code, m.world.gates g = some x →
        ∃ d, (step m (.call (.beginDrain g code))).signal = .replied (.flag d) ∧
          (step m (.call (.beginDrain g code))).world.story g =
            .closed g (.run code) d :: m.world.story g) ∧
      (∀ move, let m' := step m move
        ((m'.world.story g).filter (·.isFiring) = (m.world.story g).filter (·.isFiring) ∧
            (m'.signal = .entered → ∀ code after s, m'.stack ≠ .callback g code after :: s)) ∨
          ∃ x p cb mid old, m.world.gates g = some x ∧ x.state = .draining ∧ x.permits = [p] ∧
            x.outstanding = 1 ∧ m.world.story g = mid ++ .closed g cb false :: old ∧
            (∀ o ∈ mid, o.isWork = true) ∧
            m'.world.story g = .fired g cb :: .returned g p :: m.world.story g ∧
            m'.world.gates g = some { name := x.name, state := .drained, outstanding := 0 } ∧
            ∀ code, cb = .run code →
              (∃ after s, m'.stack = .callback g code after :: s) ∧ m'.signal = .entered) ∧
      (m.signal ≠ .aborted → ∀ code after s, m.stack = .callback g code after :: s → ∀ payload r,
        (step m (.panic payload)).world.books = m.world.books ∧ (step m (.panic payload)).stack = s ∧
          (step m (.ret r)).world.books = m.world.books ∧ (step m (.ret r)).stack = s) := by
  intro m
  have hw : m.world.Sound := run_sound moves
  have hp : Pledged g (m.world.gates g) (m.world.story g) := run_pledged moves g
  refine ⟨count_fired_le hp.fired, fun new cb d old hh hn => ?_, fun halive x code hg => ?_,
    fun move => ?_, fun halive code after s hstack payload r => ?_⟩
  · refine ⟨hp.count_fired hh hn, fun later since hnew => ?_⟩
    rw [hnew] at hh hn
    exact hp.not_fired hh hn
  · refine ⟨decide (x.outstanding = 0), ?_, ?_⟩ <;> unfold step <;> rw [if_neg halive] <;>
      simp only [perform, beginDrain, hg, World.beginDrain, reply]
    unfold World.story World.note
    rw [List.filter_cons_of_pos (by simp [Occurrence.befalls])]
    rfl
  · have hquiet {m' : Machine} (hf : (m'.world.story g).filter (·.isFiring) =
        (m.world.books.story g).filter (·.isFiring)) :
        (m'.world.story g).filter (·.isFiring) = (m.world.story g).filter (·.isFiring) := by
      rw [hf, World.story_books]
    rcases step_fires hw move with hs | ⟨f, x, p, cb, hf⟩
    · refine .inl ⟨hquiet ?_, fun he code after s => hs.entered he g code after s⟩
      rw [← World.story_books, story_firings, story_firings, hs.firings]
    have hstory := hf.story (g := g)
    by_cases hfg : f = g
    · subst hfg
      rw [if_pos rfl, World.story_books] at hstory
      obtain ⟨mid, old, hheld, hwork⟩ := hp.held x cb hf.gate hf.callback
      refine .inr ⟨x, p, cb, mid, old, hf.gate, hf.draining, hf.last.1, hf.last.2, hheld, hwork, hstory,
        ?_, hf.runs⟩
      have hgates : (step m move).world.gates = _ := congrArg Books.gates hf.books
      rw [hgates]
      exact Table.set_self _ _ _
    · rw [if_neg hfg] at hstory
      refine .inl ⟨hquiet (by rw [hstory]), fun he code after s hst => ?_⟩
      exact hfg (hf.entered he g code after s hst).symm
  · have hpanic : (step m (.panic payload)) = panic m.world payload m.stack := by
      unfold step
      rw [if_neg halive]
    have hret : (step m (.ret r)) = finish m.world s after := by
      unfold step
      rw [if_neg halive, hstack]
      rfl
    rw [hpanic, hret, hstack, finish_books, finish_stack]
    cases after <;> exact ⟨rfl, rfl, rfl, rfl⟩

/-- Within the callback of a drain the gate is opened, used and closed again, and the next callback is
entered there. The first does not run again, and the second may as well panic. -/
theorem callback_justified_nested :
    let g : GateId := ⟨⟨0, by decide⟩⟩
    let p : Permit := ⟨⟨⟨1, by decide⟩⟩, g⟩
    let q : Permit := ⟨⟨⟨2, by decide⟩⟩, g⟩
    let moves : List Move := [.call (.newGate g "a"), .call (.acquire g p.id), .call (.beginDrain g ⟨0⟩),
      .call (.release p), .call (.reopen g), .call (.acquire g q.id), .call (.beginDrain g ⟨1⟩),
      .call (.release q)]
    let m := run {} moves
    m.stack = [.callback g ⟨1⟩ (.reply .done), .callback g ⟨0⟩ (.reply .done)] ∧
      (∃ new old, m.world.story g = new ++ .closed g (.run ⟨0⟩) false :: old ∧
        new.count (.fired g (.run ⟨0⟩)) ≤ 1) ∧
      (∃ d, (step m (.call (.beginDrain g ⟨2⟩))).signal = .replied (.flag d)) ∧
      (step m (.panic .other)).world.books = m.world.books ∧
      (step m (.panic .other)).stack = [.callback g ⟨0⟩ (.reply .done)] := by
  intro g p q moves m
  let new : List Occurrence := [.fired g (.run ⟨1⟩), .returned g q.id, .closed g (.run ⟨1⟩) false,
    .issued g q.id, .reopened g, .fired g (.run ⟨0⟩), .returned g p.id]
  have hstory : m.world.story g = new ++ .closed g (.run ⟨0⟩) false :: [.issued g p.id] := by
    decide +kernel
  have hnew : ∀ e, .closed g (.run ⟨0⟩) e ∉ new := by decide
  have hstack : m.stack = [.callback g ⟨1⟩ (.reply .done), .callback g ⟨0⟩ (.reply .done)] := by
    decide +kernel
  have halive : m.signal ≠ .aborted := by decide +kernel
  have hgate : m.world.gates g = some { name := "a", state := .drained } := by decide +kernel
  obtain ⟨-, honce, htold, -, hpanic⟩ := callback_justified moves g
  obtain ⟨hcount, -⟩ := honce new _ false _ hstory hnew
  obtain ⟨d, hd, -⟩ := htold halive _ ⟨2⟩ hgate
  obtain ⟨hbooks, hrest, -⟩ := hpanic halive ⟨1⟩ _ _ hstack .other {}
  exact ⟨hstack, ⟨new, _, hstory, hcount⟩, ⟨d, hd⟩, hbooks, hrest⟩

end Machine

end Sluice
