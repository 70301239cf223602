import Sluice.Proofs.Generation
import Sluice.Proofs.Returns

/-!
# Who touches a drain

A drain that waits is a matter of the operations that are called on it, and of the one that has started it.
Nothing else touches it, and nothing takes a service from its coordinator.

* `After.drain?`, `Activation.drain?`, `Op.drain?`: the drain that is looked at.
* `World.Keeps`: services and drains, but for one, are as they were. `keeps_suspend` and the like: the
  operations on a world. `World.Staffed`, `run_staffed`: a drain that waits is one of a service that there is.
* `Tends`: an operation touches no drain but one, and leaves no code that will. `perform_tends`,
  `step_tends`: **nothing touches a drain but what is called on it**.
* `Pends`, `step_pends`, `run_pends`: a drain that waits goes on waiting until a move ends it.
-/

namespace Sluice

/-- The drain that is to be looked at first when code is back. -/
def After.drain? : After → Option DrainId
  | .firstPoll d _ _ => some d
  | _ => none

/-- The drain that is to be looked at first when this code is back. -/
def Activation.drain? (a : Activation) : Option DrainId := a.after?.bind After.drain?

/-- The drain that an operation starts, looks at or ends. -/
def Op.drain? : Op → Option DrainId
  | .startDrain d _ _ | .pollDrain d | .giveUpDrain d | .cancelDrain d => some d
  | _ => none

namespace World

/-- Services keep their coordinators, no coordinator is gone, and of the drains no other than this one is
touched. A drain that is new is one of a service that there is. -/
structure Keeps (e : Option DrainId) (w w' : World) : Prop where
  services : ∀ x y, w.services x = some y →
    ∃ y', w'.services x = some y' ∧ y'.coordinator = y.coordinator
  coordinators : ∀ c k, w.coordinators c = some k → ∃ k', w'.coordinators c = some k'
  drains : ∀ d, e ≠ some d → w'.drains d = w.drains d
  staffed : ∀ d y, w'.drains d = some y → w.drains d = some y ∨ ∃ z, w'.services y.service = some z

variable {e : Option DrainId} {w w' w'' : World} {c : CoordinatorId} {k : Coordinator} {g : GateId}
  {x : Gate}

theorem keeps_of_eq (hs : w'.services = w.services) (hc : w'.coordinators = w.coordinators)
    (hd : w'.drains = w.drains) : w.Keeps e w' :=
  ⟨fun _ y hy => ⟨y, hs ▸ hy, rfl⟩, fun _ k hk => ⟨k, hc ▸ hk⟩, fun _ _ => by rw [hd],
    fun _ _ hy => .inl (hd ▸ hy)⟩

theorem Keeps.refl (e : Option DrainId) (w : World) : w.Keeps e w := keeps_of_eq rfl rfl rfl

theorem Keeps.trans (h : w.Keeps e w') (h' : w'.Keeps e w'') : w.Keeps e w'' := by
  refine ⟨fun x y hy => ?_, fun c k hk => ?_, fun d hd => (h'.drains d hd).trans (h.drains d hd),
    fun d y hy => ?_⟩
  · obtain ⟨y', hy', hc⟩ := h.services x y hy
    obtain ⟨y'', hy'', hc'⟩ := h'.services x y' hy'
    exact ⟨y'', hy'', hc'.trans hc⟩
  · obtain ⟨k', hk'⟩ := h.coordinators c k hk
    exact h'.coordinators c k' hk'
  · rcases h'.staffed d y hy with hy | hs
    · refine (h.staffed d y hy).imp_right fun ⟨z, hz⟩ => ?_
      obtain ⟨z', hz', -⟩ := h'.services _ z hz
      exact ⟨z', hz'⟩
    · exact .inr hs

/-- Every drain that waits is one of a service that there is. -/
def Staffed (w : World) : Prop := ∀ d y, w.drains d = some y → ∃ z, w.services y.service = some z

theorem Staffed.keeps (h : w.Staffed) (hw : w.Keeps e w') : w'.Staffed := by
  intro d y hy
  rcases hw.staffed d y hy with hy | hz
  · obtain ⟨z, hz⟩ := h d y hy
    obtain ⟨z', hz', -⟩ := hw.services _ z hz
    exact ⟨z', hz'⟩
  · exact hz

theorem keeps_note (w : World) (o : Occurrence) : w.Keeps e (w.note o) := keeps_of_eq rfl rfl rfl

theorem keeps_setGate (w : World) (g : GateId) (x : Gate) : w.Keeps e (w.setGate g x) :=
  keeps_of_eq rfl rfl rfl

theorem keeps_setCoordinator (w : World) (c : CoordinatorId) (k : Coordinator) :
    w.Keeps e (w.setCoordinator c k) := by
  refine ⟨fun _ y hy => ⟨y, hy, rfl⟩, fun d l hl => ?_, fun _ _ => rfl, fun _ _ hy => .inl hy⟩
  by_cases hd : d = c
  · subst hd
    exact ⟨k, Table.set_self _ _ _⟩
  · exact ⟨l, (Table.set_of_ne _ _ hd).trans hl⟩

theorem keeps_setService {s : ServiceId} {y y' : Service} (hy : w.services s = some y)
    (hc : y'.coordinator = y.coordinator) : w.Keeps e (w.setService s y') := by
  refine ⟨fun x z hz => ?_, fun _ k hk => ⟨k, hk⟩, fun _ _ => rfl, fun _ _ hy => .inl hy⟩
  by_cases hx : x = s
  · subst hx
    cases hy.symm.trans hz
    exact ⟨y', Table.set_self _ _ _, hc⟩
  · exact ⟨z, (Table.set_of_ne _ _ hx).trans hz, rfl⟩

theorem keeps_setDrain {d : DrainId} {y : Drain} {z : Service} (hz : w.services y.service = some z) :
    w.Keeps (some d) { w with drains := w.drains.set d y } := by
  have hne {f : DrainId} (hf : some d ≠ some f) : f ≠ d := fun he => hf (by rw [he])
  refine ⟨fun _ z hz => ⟨z, hz, rfl⟩, fun _ k hk => ⟨k, hk⟩, fun f hf => Table.set_of_ne _ _ (hne hf),
    fun f y' hy' => ?_⟩
  by_cases hf : f = d
  · subst hf
    cases (Table.set_self _ _ _).symm.trans hy'
    exact .inr ⟨z, hz⟩
  · exact .inl ((Table.set_of_ne _ _ hf).symm.trans hy')

theorem keeps_eraseDrain (w : World) (d : DrainId) :
    w.Keeps (some d) { w with drains := w.drains.erase d } := by
  have hne {f : DrainId} (hf : some d ≠ some f) : f ≠ d := fun he => hf (by rw [he])
  refine ⟨fun _ z hz => ⟨z, hz, rfl⟩, fun _ k hk => ⟨k, hk⟩, fun f hf => Table.erase_of_ne _ (hne hf),
    fun f y' hy' => .inl ?_⟩
  by_cases hf : f = d
  · subst hf
    cases (Table.erase_self _ _).symm.trans hy'
  · exact (Table.erase_of_ne _ hf).symm.trans hy'

theorem keeps_letIn (w : World) (g : GateId) (x : Gate) (p : PermitId) : w.Keeps e (w.letIn g x p) :=
  keeps_of_eq rfl rfl rfl

theorem keeps_beginDrain (w : World) (g : GateId) (x : Gate) (cb : DrainCallback) :
    w.Keeps e (w.beginDrain g x cb).1 := keeps_of_eq rfl rfl rfl

theorem keeps_reopen (w : World) (g : GateId) (x : Gate) : w.Keeps e (w.reopen g x) :=
  keeps_of_eq rfl rfl rfl

theorem keeps_release (w : World) (g : GateId) (x : Gate) (p : PermitId) :
    w.Keeps e (w.release g x p).1 := by
  unfold release
  split
  · exact (keeps_setGate w g _).trans (keeps_note _ _)
  · exact keeps_note w _

theorem keeps_drop (w : World) (g : GateId) (x : Gate) (p : PermitId) : w.Keeps e (w.drop g x p).1 := by
  have h := keeps_release (e := e) w g x p
  unfold drop
  split
  · rename_i v callback hv
    rwa [hv] at h
  · rename_i v err hv
    rw [hv] at h
    exact h.trans (keeps_note _ _)

theorem keeps_closeAll (w : World) (cb : DrainCallback) (gs : List GateId) :
    w.Keeps e (w.closeAll cb gs).1 := by
  rw [closeAll_eq]
  exact keeps_of_eq rfl rfl rfl

theorem keeps_openAll (w : World) (gs : List GateId) : w.Keeps e (w.openAll gs) := by
  rw [openAll_eq]
  exact keeps_of_eq rfl rfl rfl

theorem keeps_enter (w : World) (c : CoordinatorId) (k : Coordinator) (s : SuspendState) :
    w.Keeps e (w.enter c k s) := (keeps_setCoordinator w c _).trans (keeps_note _ _)

theorem keeps_suspend (w : World) (c : CoordinatorId) (k : Coordinator) :
    w.Keeps e (w.suspend c k) := by
  rw [suspend_eq]
  have hclose := ((keeps_setCoordinator (e := e) w c k.closing).trans
    (keeps_note _ (.entered c .suspending k.listeners))).trans
    (keeps_closeAll _ (.report c (k.generation + 1)) k.gates)
  simp only
  split
  · exact hclose.trans (keeps_enter _ _ _ _)
  · exact hclose.trans (keeps_setCoordinator _ _ _)

theorem keeps_resume (w : World) (c : CoordinatorId) (k : Coordinator) : w.Keeps e (w.resume c k) :=
  (keeps_enter w c _ _).trans (keeps_openAll _ _)

theorem keeps_strike (w : World) (c : CoordinatorId) (k : Coordinator) (g : GateId) :
    w.Keeps e (w.strike c k g) := by
  rcases strike_cases w c k g with ⟨h, -⟩ | ⟨h, -⟩ <;> rw [h]
  · exact keeps_setCoordinator _ _ _
  · exact (keeps_setCoordinator _ _ _).trans (keeps_note _ _)

theorem keeps_drained (w : World) (c : CoordinatorId) (k : Coordinator) (n : Nat) (g : GateId) :
    w.Keeps e (w.drained c k n g) := by
  rcases drained_cases w c k n g with ⟨h, -⟩ | ⟨h, -⟩ <;> rw [h]
  · exact keeps_strike w c k g
  · exact .refl e w

theorem keeps_addGate (w : World) (c : CoordinatorId) (k : Coordinator) (g : GateId) (x : Gate) :
    w.Keeps e (w.addGate c k g x) := by
  have hclose : w.Keeps e (w.beginDrain g x (.report c k.generation)).1 := keeps_beginDrain _ _ _ _
  unfold addGate
  split
  · exact keeps_note _ _
  · split
    · simp only
      split
      · exact hclose.trans (keeps_setCoordinator _ _ _)
      · split
        · exact hclose.trans (keeps_setCoordinator _ _ _)
        · exact (hclose.trans (keeps_note _ _)).trans (keeps_setCoordinator _ _ _)
    · exact keeps_setCoordinator _ _ _

theorem keeps_dropCoordinator (w : World) (c : CoordinatorId) : w.Keeps e (w.dropCoordinator c) := by
  unfold dropCoordinator
  split
  · exact .refl e w
  · exact keeps_setCoordinator _ _ _

theorem keeps_dropService (w : World) (s : ServiceId) : w.Keeps e (w.dropService s) := by
  unfold dropService
  split
  · exact .refl e w
  · rename_i y hy
    have hset : w.Keeps e (w.setService s { y with handles := y.handles - 1 }) := keeps_setService hy rfl
    simp only
    split
    · exact hset.trans (keeps_dropCoordinator _ _)
    · exact hset

theorem keeps_expire (w : World) (k : Coordinator) (d : Drain) : w.Keeps e (w.expire k d).1 := by
  unfold expire
  suffices h : ∀ (l : List (String × Int)) (v : World),
      v.Keeps e (l.foldl (fun w x => w.alert (.stillBusy x.1 x.2)) v) from h _ w
  intro l
  induction l with
  | nil => exact Keeps.refl e
  | cons y l ih => exact fun v => (keeps_note v _).trans (ih _)

theorem keeps_poll (w : World) (k : Coordinator) (d : Drain) : w.Keeps e (w.poll k d).1 := by
  unfold poll
  split
  · exact .refl e w
  · split
    · exact keeps_expire w k d
    · exact .refl e w

/-- A drain that has to wait leaves no trace. -/
theorem poll_of_pending {d : Drain} (h : (w.poll k d).2 = .pending) : w.poll k d = (w, .pending) := by
  unfold poll at h ⊢
  split at h
  · cases h
  · rename_i hs
    split at h
    · cases h
    · rename_i hd
      rw [if_neg hs, if_neg hd]

end World

namespace Machine

open Http World

/-- An operation is called from code, and touches no drain but this one: neither now, nor when the code that
it has entered is back. -/
structure Tends (e : Option DrainId) (w : World) (s : List Activation) (m : Machine) : Prop where
  world : w.Keeps e m.world
  stack : ∀ a ∈ m.stack, a ∈ s ∨ a.drain? = none ∨ a.drain? = e

variable {e : Option DrainId} {w v : World} {s : List Activation} {c : CoordinatorId} {after : After}
  {m : Machine}

theorem Tends.after_keeps (h : Tends e v s m) (hw : w.Keeps e v) : Tends e w s m :=
  ⟨hw.trans h.world, h.stack⟩

theorem tends_here (hw : w.Keeps e v) (signal : Signal) : Tends e w s ⟨v, s, signal⟩ :=
  ⟨hw, fun _ ha => .inl ha⟩

theorem tends_entered (hw : w.Keeps e v) {a : Activation} (ha : a.drain? = none ∨ a.drain? = e)
    (signal : Signal) : Tends e w s ⟨v, a :: s, signal⟩ := by
  refine ⟨hw, fun b hb => ?_⟩
  rcases List.mem_cons.1 hb with rfl | hb
  · exact .inr ha
  · exact .inl hb

theorem firstPoll_tends (w : World) (s : List Activation) (d : DrainId) (x : ServiceId) (timeout : Span) :
    Tends (some d) w s (firstPoll w s d x timeout) := by
  unfold firstPoll
  split
  · exact tends_here (.refl _ w) _
  · rename_i c k hx
    have hp := keeps_poll (e := some d) w k ⟨x, timeout, w.clock + timeout.toNanos⟩
    simp only
    split
    · rename_i u hu
      rw [hu] at hp
      obtain ⟨y, hy, -⟩ := Option.map_eq_some_iff.1 (coordinatorOf_eq_some hx).1
      obtain ⟨z, hz, -⟩ := hp.services x y hy
      exact tends_here (hp.trans (keeps_setDrain hz)) _
    · rename_i u o _ hu
      rw [hu] at hp
      exact tends_here (hp.trans (keeps_dropService _ _)) _

theorem finish_tends (w : World) (s : List Activation) (after : After)
    (he : after.drain? = none ∨ after.drain? = e) : Tends e w s (finish w s after) := by
  unfold finish
  cases after with
  | reply | raise => exact tends_here (.refl _ w) _
  | snapshot c | respond _ c =>
    simp only
    split <;> exact tends_here (.refl _ w) _
  | firstPoll d x timeout =>
    rcases he with he | rfl
    · cases he
    · exact firstPoll_tends w s d x timeout

theorem enterHook_tends (he : after.drain? = none ∨ after.drain? = e) (h : Hook) (l : Listener)
    (others : List Listener) : Tends e w s (enterHook w s c h l others after) :=
  tends_entered (a := .hook c h l others after) (keeps_note _ _) he _

theorem deliver_tends (he : after.drain? = none ∨ after.drain? = e) :
    Tends e w s (deliver w s c after) := by
  unfold deliver
  split
  · exact finish_tends _ _ _ he
  · split
    · exact (finish_tends _ _ _ he).after_keeps (keeps_setCoordinator _ _ _)
    · exact (enterHook_tends he _ _ _).after_keeps (keeps_setCoordinator _ _ _)

theorem dispatch_tends (he : after.drain? = none ∨ after.drain? = e) :
    Tends e w s (dispatch w s c after) := by
  unfold dispatch
  split
  · exact finish_tends _ _ _ he
  · split
    · exact finish_tends _ _ _ he
    · exact (deliver_tends he).after_keeps (keeps_setCoordinator _ _ _)

theorem nextHook_tends (he : after.drain? = none ∨ after.drain? = e) {h : Hook} {others : List Listener} :
    Tends e w s (nextHook w s c h others after) := by
  unfold nextHook
  split
  · exact deliver_tends he
  · exact enterHook_tends he _ _ _

theorem fire_tends (he : after.drain? = none ∨ after.drain? = e) {g : GateId}
    {callback : Option DrainCallback} : Tends e w s (fire w s g callback after) := by
  rcases fire_cases w s g callback after with
    ⟨h, -⟩ | ⟨cb, -, ⟨code, -, h⟩ | ⟨c, n, k, -, -, -, h⟩ | ⟨c, n, -, -, h⟩⟩ <;> rw [h]
  · exact finish_tends _ _ _ he
  · exact tends_entered (a := .callback g code after) (keeps_note _ _) he _
  · exact (dispatch_tends he).after_keeps ((keeps_note _ _).trans (keeps_drained _ _ _ _ _))
  · exact (finish_tends _ _ _ he).after_keeps (keeps_note _ _)

/-! ## Operations -/

theorem acquire_tends (g : GateId) (p : PermitId) : Tends e w s (acquire w s g p) := by
  unfold acquire
  split
  · split
    · exact tends_here (keeps_letIn _ _ _ _) _
    · exact (fire_tends (.inl rfl)).after_keeps (keeps_setGate _ _ _)
  · exact tends_here (.refl _ w) _

theorem giveBack_tends (g : GateId) (p : PermitId) : Tends e w s (giveBack w s g p) := by
  unfold giveBack
  split
  · exact tends_here (.refl _ w) _
  · rename_i x _
    have hr := keeps_release (e := e) w g x p
    split
    · rename_i u callback hu
      rw [hu] at hr
      exact (fire_tends (.inl rfl)).after_keeps hr
    · rename_i u err hu
      rw [hu] at hr
      exact tends_here hr _

theorem letGo_tends (p : Permit) (he : after.drain? = none) : Tends e w s (letGo w s p after) := by
  unfold letGo
  split
  · exact finish_tends _ _ _ (.inl he)
  · exact (fire_tends (.inl he)).after_keeps (keeps_drop _ _ _ _)

theorem releaseVia_tends (g : GateId) (p : Permit) : Tends e w s (releaseVia w s g p) := by
  unfold releaseVia
  split
  · split
    · exact giveBack_tends _ _
    · exact (letGo_tends _ rfl).after_keeps (keeps_note _ _)
  · exact tends_here (.refl _ w) _

theorem releaseTicket_tends (g : GateId) (t : Ticket) : Tends e w s (releaseTicket w s g t) := by
  unfold releaseTicket
  split
  · exact tends_here (.refl _ w) _
  · split
    · exact giveBack_tends _ _
    · exact tends_here (keeps_note _ _) _

theorem suspend_tends (he : after.drain? = none ∨ after.drain? = e) :
    Tends e w s (suspend w s c after) := by
  unfold suspend
  split
  · exact tends_here (.refl _ w) _
  · split
    · exact (dispatch_tends he).after_keeps (keeps_suspend _ _ _)
    · exact finish_tends _ _ _ he

theorem resume_tends (he : after.drain? = none ∨ after.drain? = e) :
    Tends e w s (resume w s c after) := by
  unfold resume
  split
  · exact tends_here (.refl _ w) _
  · split
    · exact finish_tends _ _ _ he
    · exact (dispatch_tends he).after_keeps (keeps_resume _ _ _)

theorem suspendService_tends (x : ServiceId) {after : CoordinatorId → After}
    (he : ∀ c, (after c).drain? = none ∨ (after c).drain? = e) :
    Tends e w s (suspendService w s x after) := by
  unfold suspendService
  split
  · exact tends_here (.refl _ w) _
  · exact suspend_tends (he _)

theorem resumeService_tends (x : ServiceId) {after : CoordinatorId → After}
    (he : ∀ c, (after c).drain? = none) : Tends e w s (resumeService w s x after) := by
  unfold resumeService
  split
  · exact tends_here (.refl _ w) _
  · exact resume_tends (.inl (he _))

theorem startDrain_tends (d : DrainId) (x : ServiceId) (timeout : Span) :
    Tends (some d) w s (startDrain w s d x timeout) := by
  unfold startDrain
  split
  · rename_i y _ hy
    have hheld : w.Keeps (some d) (w.setService x { y with handles := y.handles + 1 }) :=
      keeps_setService hy rfl
    refine Tends.after_keeps ?_ hheld
    exact suspendService_tends x fun _ => .inr rfl
  · exact tends_here (.refl _ w) _

theorem pollAt_tends (d : DrainId) (deadline : Drain → Nat) (late : World → DrainError → World)
    (hlate : ∀ v err, World.Keeps (some d) v (late v err)) :
    Tends (some d) w s (pollAt w s d deadline late) := by
  unfold pollAt
  split
  · exact tends_here (.refl _ w) _
  rename_i x _
  split
  · exact tends_here (.refl _ w) _
  rename_i k _
  have hp := keeps_poll (e := some d) w k { x with deadline := deadline x }
  -- the drain is over: it is forgotten and lets go of its service
  have hend (u : World) (o : DrainOutcome) (hu : w.Keeps (some d) u) : Tends (some d) w s
      (reply ({ u with drains := u.drains.erase d }.dropService x.service) s (.drain o)) :=
    tends_here ((hu.trans (keeps_eraseDrain u d)).trans (keeps_dropService _ _)) _
  generalize w.poll k { x with deadline := deadline x } = po at hp ⊢
  obtain ⟨u, o⟩ := po
  cases o with
  | pending => exact tends_here hp _
  | drained => exact hend u _ hp
  | timedOut err => exact hend _ _ (hp.trans (hlate u err))

theorem respond_tends (p : Permit) (r : Response) : Tends e w s (respond w s p r) := by
  unfold respond
  split
  · exact tends_here (.refl _ w) _
  · rename_i x _
    have hr := keeps_release (e := e) w p.gate x p.id
    split
    · rename_i u callback hu
      rw [hu] at hr
      exact (fire_tends (.inl rfl)).after_keeps hr
    · rename_i u err hu
      rw [hu] at hr
      exact tends_here (hr.trans (keeps_note _ _)) _

theorem shutdown_tends (x : ServiceId) (r : Reply) : Tends e w s (shutdown w s x r) := by
  unfold shutdown
  split
  · exact tends_here (.refl _ w) _
  · rename_i y hy
    have hasked : w.Keeps e (w.shutdown x y) := keeps_setService hy rfl
    exact tends_here hasked _

theorem command_tends (x : ServiceId) (o : Command) (head : Bool) :
    Tends e w s (command w s x o head) := by
  unfold command
  split
  · exact tends_here (.refl _ w) _
  · cases o with
    | health | state => exact tends_here (.refl _ w) _
    | suspend => exact suspendService_tends x fun _ => .inl rfl
    | resume => exact resumeService_tends x fun _ => rfl
    | shutdown => exact shutdown_tends x _

theorem behindGate_tends (g : GateId) (l : Landing) (q : Request) (p : PermitId) :
    Tends e w s (behindGate w s g l q p) := by
  unfold behindGate
  split
  · split
    · split
      · exact tends_entered (a := .handler ⟨⟨p, _⟩, _, _⟩) (keeps_letIn _ _ _ _) (.inl rfl) _
      · exact (respond_tends _ _).after_keeps (keeps_letIn _ _ _ _)
    · exact (fire_tends (.inl rfl)).after_keeps (keeps_setGate _ _ _)
  · exact tends_here (.refl _ w) _

theorem request_tends (site : Site) (q : Request) (p : PermitId) :
    Tends e w s (request w s site q p) := by
  unfold request
  split
  · exact command_tends _ _ _
  · exact behindGate_tends _ _ _ _
  · exact tends_here (.refl _ w) _

/-- **An operation touches no drain but its own**, takes no service from its coordinator, and no coordinator
away. -/
theorem perform_tends (op : Op) : Tends op.drain? w s (perform w s op) := by
  have hself (signal : Signal) : Tends op.drain? w s ⟨w, s, signal⟩ := tends_here (.refl _ w) _
  cases op with
  | newGate g name =>
    simp only [perform, newGate]
    split
    · exact hself _
    · exact tends_here (keeps_setGate _ _ _) _
  | acquire g p => exact acquire_tends g p
  | release p => exact giveBack_tends p.gate p.id
  | releaseVia g p => exact releaseVia_tends g p
  | drop p => exact letGo_tends p rfl
  | releaseTicket g t => exact releaseTicket_tends g t
  | beginDrain g code =>
    simp only [perform, beginDrain]
    split
    · exact hself _
    · exact tends_here (keeps_beginDrain _ _ _ _) _
  | reopen g =>
    simp only [perform, reopen]
    split
    · exact hself _
    · exact tends_here (keeps_reopen _ _ _) _
  | newCoordinator c =>
    simp only [perform, newCoordinator]
    split
    · exact hself _
    · exact tends_here (keeps_setCoordinator _ _ _) _
  | shareCoordinator c =>
    simp only [perform, shareCoordinator]
    split
    · exact hself _
    · exact tends_here (keeps_setCoordinator _ _ _) _
  | dropCoordinator c => exact tends_here (keeps_dropCoordinator _ _) _
  | suspend c => exact suspend_tends (.inl rfl)
  | resume c => exact resume_tends (.inl rfl)
  | registerGate c g name =>
    simp only [perform, registerGate]
    split
    · exact tends_here ((keeps_setGate _ _ _).trans (keeps_addGate _ _ _ _ _)) _
    · exact hself _
  | addGate c g =>
    simp only [perform, addGate]
    split
    · exact tends_here (keeps_addGate _ _ _ _ _) _
    · exact hself _
  | removeGate c g =>
    simp only [perform, removeGate]
    split
    · exact hself _
    · exact (dispatch_tends (.inl rfl)).after_keeps (keeps_strike _ _ _ _)
  | addListener c l offer =>
    simp only [perform, addListener]
    split
    · exact hself _
    · split
      · exact tends_here ((keeps_setCoordinator _ _ _).trans (keeps_note _ _)) _
      · exact tends_here (keeps_note _ _) _
      · exact tends_here ((keeps_note _ _).trans (keeps_note _ _)) _
  | removeListener c l =>
    simp only [perform, removeListener]
    split
    · exact hself _
    · exact tends_here ((keeps_setCoordinator _ _ _).trans (keeps_note _ _)) _
  | newService x c =>
    simp only [perform, newService]
    split
    · rename_i k hx hk
      set v : World := w.setCoordinator c { k with handles := k.handles + 1 }
      have hmade : v.Keeps none (v.setService x { coordinator := c }) := by
        refine ⟨fun z y hz => ⟨y, ?_, rfl⟩, fun d l hl => ⟨l, hl⟩, fun _ _ => rfl, fun _ _ hy => .inl hy⟩
        -- the service that is made is another
        have hzx : z ≠ x := by
          rintro rfl
          cases hx.symm.trans hz
        exact (Table.set_of_ne _ _ hzx).trans hz
      exact tends_here ((keeps_setCoordinator _ _ _).trans hmade) _
    · exact hself _
  | dropService x => exact tends_here (keeps_dropService _ _) _
  | suspendService x => exact suspendService_tends x fun _ => .inl rfl
  | resumeService x => exact resumeService_tends x fun _ => rfl
  | shutdown x => exact shutdown_tends x _
  | startDrain d x timeout => exact startDrain_tends d x timeout
  | pollDrain d => exact pollAt_tends d _ _ fun v _ => .refl _ v
  | giveUpDrain d => exact pollAt_tends d _ _ fun v _ => keeps_note v _
  | cancelDrain d =>
    simp only [perform, cancelDrain]
    split
    · exact hself _
    · exact tends_here ((keeps_eraseDrain w d).trans (keeps_dropService _ _)) _
  | request site q p => exact request_tends site q p
  | finishRequest r =>
    simp only [perform, finishRequest]
    split
    · exact hself _
    · rename_i a _
      have hgone : w.Keeps none { w with waiting := w.waiting.erase r } := keeps_of_eq rfl rfl rfl
      exact tends_entered (a := .handler a) hgone (.inl rfl) _
  | cancelRequest r =>
    simp only [perform, cancelRequest]
    split
    · exact hself _
    · have hgone : w.Keeps none { w with waiting := w.waiting.erase r } := keeps_of_eq rfl rfl rfl
      exact (letGo_tends _ rfl).after_keeps hgone
  | advance nanos =>
    have hlater : w.Keeps none { w with clock := w.clock + nanos } := keeps_of_eq rfl rfl rfl
    exact tends_here hlater _

/-! ## Moves -/

theorem Tends.mono {t : List Activation} (h : Tends e w t m) (hts : t ⊆ s) : Tends e w s m :=
  ⟨h.world, fun a ha => (h.stack a ha).imp_left fun hm => hts hm⟩

/-- The drain that a move of the innermost code may touch. -/
def Move.drain? (s : List Activation) : Move → Option DrainId
  | .call op => op.drain?
  | _ => s.head?.bind Activation.drain?

theorem ret_tends (r : Response) : Tends (s.head?.bind Activation.drain?) w s (ret w r s) := by
  unfold ret
  split
  · exact tends_here (.refl _ w) _
  · exact (finish_tends _ _ _ (.inr rfl)).mono (List.subset_cons_self _ _)
  · exact (nextHook_tends (.inr rfl)).mono (List.subset_cons_self _ _)
  · exact (respond_tends _ _).mono (List.subset_cons_self _ _)

theorem panic_tends (payload : Payload) :
    Tends (s.head?.bind Activation.drain?) w s (panic w payload s) := by
  unfold panic
  split
  · exact tends_here (.refl _ w) _
  · exact (tends_here (.refl _ w) _).mono (List.subset_cons_self _ _)
  · exact (tends_here (.refl _ w) _).mono (List.subset_cons_self _ _)
  · exact ((nextHook_tends (.inr rfl)).after_keeps (keeps_note _ _)).mono (List.subset_cons_self _ _)
  · exact (letGo_tends _ rfl).mono (List.subset_cons_self _ _)

theorem park_tends (r : RequestId) : Tends e w s (park w r s) := by
  unfold park
  split
  · split
    · rename_i a _ _ _
      have hput : w.Keeps e { w with waiting := w.waiting.set r a } := keeps_of_eq rfl rfl rfl
      exact (tends_here hput _).mono (List.subset_cons_self _ _)
    · exact tends_here (.refl _ w) _
  · exact tends_here (.refl _ w) _

theorem step_tends (m : Machine) (move : Move) :
    Tends (move.drain? m.stack) m.world m.stack (step m move) := by
  unfold step
  split
  · exact tends_here (.refl _ _) _
  · cases move with
    | call op => exact perform_tends op
    | ret r => exact ret_tends r
    | panic payload => exact panic_tends payload
    | park r => exact park_tends r

theorem run_staffed (moves : List Move) : (run {} moves).world.Staffed := by
  induction moves using List.reverseRecOn with
  | nil => exact fun d y hy => nomatch hy
  | append_singleton moves move ih =>
    rw [run_snoc]
    exact ih.keeps (step_tends _ move).world

/-- **No move takes a service from its coordinator.** -/
theorem step_coordinatorOf {x : ServiceId} {k : Coordinator} (hx : m.world.coordinatorOf x = some (c, k))
    (move : Move) : ∃ k', (step m move).world.coordinatorOf x = some (c, k') := by
  obtain ⟨hs, hk⟩ := coordinatorOf_eq_some hx
  obtain ⟨y, hy, rfl⟩ := Option.map_eq_some_iff.1 hs
  have hkeep := (step_tends m move).world
  obtain ⟨y', hy', hc⟩ := hkeep.services x y hy
  obtain ⟨k', hk'⟩ := hkeep.coordinators _ k hk
  exact ⟨k', coordinatorOf_eq (by rw [hy', Option.map_some, hc]) hk'⟩

theorem run_coordinatorOf {x : ServiceId} {k : Coordinator} (hx : m.world.coordinatorOf x = some (c, k))
    (moves : List Move) : ∃ k', (run m moves).world.coordinatorOf x = some (c, k') := by
  induction moves generalizing m k with
  | nil => exact ⟨k, hx⟩
  | cons move moves ih =>
    obtain ⟨k', hk'⟩ := step_coordinatorOf hx move
    exact ih hk'

/-! ## Drains that wait -/

/-- A drain waits, and is looked at only when somebody asks. -/
structure Pends (d : DrainId) (y : Drain) (m : Machine) : Prop where
  drain : m.world.drains d = some y
  stack : ∀ a ∈ m.stack, a.drain? ≠ some d

/-- The move ends a drain: it drops the drain or gives it up, or has looked at it and the drain is over. -/
def Move.Ends (m : Machine) (move : Move) (d : DrainId) : Prop :=
  move = .call (.cancelDrain d) ∨ move = .call (.giveUpDrain d) ∨
    (move = .call (.pollDrain d) ∧ (step m move).signal ≠ .replied (.drain .pending))

theorem step_of_aborted (ha : m.signal = .aborted) (move : Move) : step m move = m := by
  unfold step
  rw [if_pos ha]

/-- A drain that is looked at and goes on leaves no trace. -/
theorem pollAt_pending {d : DrainId} {deadline : Drain → Nat} {late : World → DrainError → World}
    (h : (pollAt w s d deadline late).signal = .replied (.drain .pending)) :
    pollAt w s d deadline late = ⟨w, s, .replied (.drain .pending)⟩ := by
  unfold pollAt at h ⊢
  split at h
  · cases h
  rename_i x _
  split at h
  · cases h
  rename_i k _
  cases hp : w.poll k { x with deadline := deadline x } with
  | mk v o =>
    rw [hp] at h
    cases o with
    | pending =>
      obtain rfl : v = w := by
        have hv := poll_of_pending (congrArg Prod.snd hp)
        rw [hp] at hv
        exact congrArg Prod.fst hv
      rfl
    | drained | timedOut => cases h

/-- **A drain that waits goes on waiting** until a move ends it. -/
theorem step_pends {d : DrainId} {y : Drain} {move : Move} (h : Pends d y m) (hm : ¬ move.Ends m d) :
    Pends d y (step m move) := by
  by_cases ha : m.signal = .aborted
  · rwa [step_of_aborted ha]
  by_cases hd : move.drain? m.stack = some d
  · -- the move is a call on this drain, and changes nothing
    suffices hself : (step m move).world = m.world ∧ (step m move).stack = m.stack from
      ⟨hself.1 ▸ h.drain, hself.2 ▸ h.stack⟩
    cases move with
    | call op =>
      have hop : op.drain? = some d := hd
      cases op with
      | startDrain f x timeout =>
        cases hop
        unfold step
        rw [if_neg ha]
        simp only [perform, startDrain, h.drain]
        exact ⟨rfl, rfl⟩
      | pollDrain f =>
        cases hop
        have hp : (step m (.call (.pollDrain d))).signal = .replied (.drain .pending) := by
          by_contra hne
          exact hm (.inr (.inr ⟨rfl, hne⟩))
        unfold step at hp ⊢
        rw [if_neg ha] at hp ⊢
        have he := pollAt_pending hp
        simp only [perform, pollDrain, he, and_self]
      | giveUpDrain f =>
        cases hop
        exact absurd (.inr (.inl rfl)) hm
      | cancelDrain f =>
        cases hop
        exact absurd (.inl rfl) hm
      | _ => cases hop
    | _ =>
      -- the innermost code is not to look at it
      obtain ⟨a, hs, hda⟩ := Option.bind_eq_some_iff.1 hd
      exact absurd hda (h.stack a (List.mem_of_mem_head? hs))
  · have ht := step_tends m move
    refine ⟨(ht.world.drains d hd).trans h.drain, fun a hs => ?_⟩
    rcases ht.stack a hs with hs | hs | hs
    · exact h.stack a hs
    · rw [hs]
      exact (Option.some_ne_none d).symm
    · rw [hs]
      exact hd

theorem run_pends {d : DrainId} {y : Drain} {moves : List Move} (h : Pends d y m)
    (hm : ∀ pre move, pre ++ [move] <+: moves → ¬ move.Ends (run m pre) d) :
    Pends d y (run m moves) := by
  induction moves using List.reverseRecOn with
  | nil => exact h
  | append_singleton moves move ih =>
    rw [run_snoc]
    exact step_pends (ih fun pre x hx => hm pre x (hx.trans (List.prefix_append _ _)))
      (hm moves move List.prefix_rfl)

end Machine

end Sluice
