import Sluice.Proofs.Services

/-!
# The code that is entered

An operation that runs a caller's code has something left to do when that code is back.

* `World.Over`: a service is one over this coordinator.
* `After.Brief`: what is left is to answer. `After.Regards`: what is left regards this coordinator, or none.
* `Activation.Tidy`: what waits for a hook regards the coordinator whose hook it is, and what waits for a
  callback is brief. `perform_enters`: **an operation enters tidy code**. `run_tidy`: there is no other.
-/

namespace Sluice

namespace World

/-- The service is one over this coordinator. -/
def Over (w : World) (c : CoordinatorId) (x : ServiceId) : Prop :=
  (w.services x).map Service.coordinator = some c

variable {w w' : World} {c : CoordinatorId} {x s : ServiceId} {y : Service}

theorem over_iff : w.Over c x ↔ ∃ y, w.services x = some y ∧ y.coordinator = c := Option.map_eq_some_iff

theorem over_setService : (w.setService s y).Over c x ↔ if x = s then y.coordinator = c else w.Over c x := by
  unfold Over setService Table.set
  simp only
  split
  · rw [Option.map_some, Option.some.injEq]
  · rfl

theorem Over.keeps {e : Option DrainId} (h : w.Over c x) (hw : w.Keeps e w') : w'.Over c x := by
  obtain ⟨y, hy, hyc⟩ := over_iff.1 h
  obtain ⟨y', hy', hyc'⟩ := hw.services x y hy
  exact over_iff.2 ⟨y', hy', hyc'.trans hyc⟩

end World

/-- What is left of an operation is to answer. -/
def After.Brief : After → Prop
  | .reply _ | .raise _ => True
  | _ => False

/-- What is left of an operation regards this coordinator, or none. -/
def After.Regards (c : CoordinatorId) (w : World) : After → Prop
  | .snapshot d | .respond _ d => d = c
  | .firstPoll _ x _ => w.Over c x
  | _ => True

/-- What waits for a hook regards the coordinator whose hook it is, and what waits for a callback is brief. -/
def Activation.Tidy (w : World) : Activation → Prop
  | .callback _ _ after => after.Brief
  | .hook c _ _ _ after => after.Regards c w
  | .handler _ => True

variable {w w' v : World} {c : CoordinatorId} {after : After} {a : Activation}

theorem After.brief_reply (r : Reply) : (After.reply r).Brief := trivial

theorem After.brief_raise (payload : Payload) : (After.raise payload).Brief := trivial

theorem After.Brief.drain (h : after.Brief) : after.drain? = none := by
  cases after with
  | firstPoll => cases h
  | _ => rfl

theorem After.Brief.regards (h : after.Brief) : after.Regards c w := by
  cases after with
  | reply | raise => trivial
  | _ => cases h

theorem After.Regards.keeps {e : Option DrainId} (h : after.Regards c w) (hw : w.Keeps e w') :
    after.Regards c w' := by
  cases after with
  | firstPoll => exact World.Over.keeps h hw
  | _ => exact h

theorem Activation.Tidy.keeps {e : Option DrainId} (h : a.Tidy w) (hw : w.Keeps e w') : a.Tidy w' := by
  cases a with
  | hook => exact After.Regards.keeps h hw
  | _ => exact h

namespace Machine

open Http World

variable {s : List Activation} {g : GateId} {m : Machine}

/-! ## Into hooks and callbacks -/

theorem deliver_enters (ha : a ∈ (deliver w s c after).stack) :
    a ∈ s ∨ ∃ h l others, a = .hook c h l others after := by
  unfold deliver at ha
  split at ha
  · rw [finish_stack] at ha
    exact .inl ha
  · split at ha
    · rw [finish_stack] at ha
      exact .inl ha
    · rcases List.mem_cons.1 ha with rfl | ha
      · exact .inr ⟨_, _, _, rfl⟩
      · exact .inl ha

theorem dispatch_enters (ha : a ∈ (dispatch w s c after).stack) :
    a ∈ s ∨ ∃ h l others, a = .hook c h l others after := by
  unfold dispatch at ha
  split at ha
  · rw [finish_stack] at ha
    exact .inl ha
  · split at ha
    · rw [finish_stack] at ha
      exact .inl ha
    · exact deliver_enters ha

theorem nextHook_enters {h : Hook} {others : List Listener} (ha : a ∈ (nextHook w s c h others after).stack) :
    a ∈ s ∨ ∃ h l others, a = .hook c h l others after := by
  unfold nextHook at ha
  split at ha
  · exact deliver_enters ha
  · rcases List.mem_cons.1 ha with rfl | ha
    · exact .inr ⟨_, _, _, rfl⟩
    · exact .inl ha

theorem dispatch_tidy (hr : after.Regards c v) (ha : a ∈ (dispatch w s c after).stack) :
    a ∈ s ∨ a.Tidy v := by
  rcases dispatch_enters ha with hm | ⟨h, l, others, rfl⟩
  · exact .inl hm
  · exact .inr hr

theorem fire_tidy (hb : after.Brief) {callback : Option DrainCallback}
    (ha : a ∈ (fire w s g callback after).stack) : a ∈ s ∨ a.Tidy v := by
  rcases fire_cases w s g callback after with
    ⟨h, -⟩ | ⟨cb, -, ⟨code, -, h⟩ | ⟨c, n, k, -, -, -, h⟩ | ⟨c, n, -, -, h⟩⟩ <;> rw [h] at ha
  · rw [finish_stack] at ha
    exact .inl ha
  · rcases List.mem_cons.1 ha with rfl | ha
    · exact .inr hb
    · exact .inl ha
  · exact dispatch_tidy hb.regards ha
  · rw [finish_stack] at ha
    exact .inl ha

/-! ## Operations -/

theorem giveBack_tidy {p : PermitId} (ha : a ∈ (giveBack w s g p).stack) : a ∈ s ∨ a.Tidy v := by
  unfold giveBack at ha
  split at ha
  · exact .inl ha
  · split at ha
    · exact fire_tidy (After.brief_reply _) ha
    · exact .inl ha

theorem letGo_tidy {p : Permit} (hb : after.Brief) (ha : a ∈ (letGo w s p after).stack) :
    a ∈ s ∨ a.Tidy v := by
  unfold letGo at ha
  split at ha
  · rw [finish_stack] at ha
    exact .inl ha
  · exact fire_tidy hb ha

theorem respond_tidy {p : Permit} {r : Response} (ha : a ∈ (respond w s p r).stack) : a ∈ s ∨ a.Tidy v := by
  unfold respond at ha
  split at ha
  · exact .inl ha
  · split at ha
    · exact fire_tidy (After.brief_reply _) ha
    · exact .inl ha

theorem suspend_tidy (hr : after.Regards c v) (ha : a ∈ (suspend w s c after).stack) : a ∈ s ∨ a.Tidy v := by
  unfold suspend at ha
  split at ha
  · exact .inl ha
  · split at ha
    · exact dispatch_tidy hr ha
    · rw [finish_stack] at ha
      exact .inl ha

theorem resume_tidy (hr : after.Regards c v) (ha : a ∈ (resume w s c after).stack) : a ∈ s ∨ a.Tidy v := by
  unfold resume at ha
  split at ha
  · exact .inl ha
  · split at ha
    · rw [finish_stack] at ha
      exact .inl ha
    · exact dispatch_tidy hr ha

theorem suspendService_tidy {x : ServiceId} (after : CoordinatorId → After)
    (hr : ∀ c, w.Over c x → (after c).Regards c v) (ha : a ∈ (suspendService w s x after).stack) :
    a ∈ s ∨ a.Tidy v := by
  unfold suspendService at ha
  split at ha
  · exact .inl ha
  · rename_i c k hx
    exact suspend_tidy (hr c (coordinatorOf_eq_some hx).1) ha

theorem resumeService_tidy {x : ServiceId} (after : CoordinatorId → After)
    (hr : ∀ c, w.Over c x → (after c).Regards c v) (ha : a ∈ (resumeService w s x after).stack) :
    a ∈ s ∨ a.Tidy v := by
  unfold resumeService at ha
  split at ha
  · exact .inl ha
  · rename_i c k hx
    exact resume_tidy (hr c (coordinatorOf_eq_some hx).1) ha

theorem startDrain_tidy {d : DrainId} {x : ServiceId} {timeout : Span}
    (ha : a ∈ (startDrain w s d x timeout).stack) : a ∈ s ∨ a.Tidy w := by
  unfold startDrain at ha
  split at ha
  swap
  · exact .inl ha
  rename_i y _ hy
  -- that one holder more has the service does not change what it is over
  refine suspendService_tidy _ (fun c hc => ?_) ha
  rw [over_setService, if_pos rfl] at hc
  exact over_iff.2 ⟨y, hy, hc⟩

theorem pollAt_stack (d : DrainId) (deadline : Drain → Nat) (late : World → DrainError → World) :
    (pollAt w s d deadline late).stack = s := by
  unfold pollAt
  split
  · rfl
  · split
    · rfl
    · simp only
      split <;> rfl

theorem shutdown_stack (x : ServiceId) (r : Reply) : (shutdown w s x r).stack = s := by
  unfold shutdown
  split <;> rfl

theorem command_tidy {x : ServiceId} {o : Command} {head : Bool} (ha : a ∈ (command w s x o head).stack) :
    a ∈ s ∨ a.Tidy w := by
  unfold command at ha
  split at ha
  · exact .inl ha
  · cases o with
    | health | state => exact .inl ha
    | suspend => exact suspendService_tidy (.respond 202) (fun _ _ => rfl) ha
    | resume => exact resumeService_tidy (.respond 200) (fun _ _ => rfl) ha
    | shutdown =>
      simp only [shutdown_stack] at ha
      exact .inl ha

theorem behindGate_tidy {g : GateId} {l : Landing} {q : Request} {p : PermitId}
    (ha : a ∈ (behindGate w s g l q p).stack) : a ∈ s ∨ a.Tidy w := by
  unfold behindGate at ha
  split at ha
  · split at ha
    · split at ha
      · rcases List.mem_cons.1 ha with rfl | ha
        · exact .inr trivial
        · exact .inl ha
      · exact respond_tidy ha
    · exact fire_tidy (After.brief_reply _) ha
  · exact .inl ha

theorem request_tidy {site : Site} {q : Request} {p : PermitId} (ha : a ∈ (request w s site q p).stack) :
    a ∈ s ∨ a.Tidy w := by
  unfold request at ha
  split at ha
  · exact command_tidy ha
  · exact behindGate_tidy ha
  · exact .inl ha

/-- **An operation enters tidy code.** -/
theorem perform_enters {op : Op} (ha : a ∈ (perform w s op).stack) : a ∈ s ∨ a.Tidy w := by
  cases op with
  | acquire g p =>
    simp only [perform, acquire] at ha
    split at ha
    · split at ha
      · exact .inl ha
      · exact fire_tidy (After.brief_reply _) ha
    · exact .inl ha
  | release p => exact giveBack_tidy ha
  | releaseVia g p =>
    simp only [perform, releaseVia] at ha
    split at ha
    · split at ha
      · exact giveBack_tidy ha
      · exact letGo_tidy (After.brief_reply _) ha
    · exact .inl ha
  | drop p => exact letGo_tidy (After.brief_reply _) ha
  | releaseTicket g t =>
    simp only [perform, releaseTicket] at ha
    split at ha
    · exact .inl ha
    · split at ha
      · exact giveBack_tidy ha
      · exact .inl ha
  | suspend c => exact suspend_tidy (After.brief_reply _).regards ha
  | resume c => exact resume_tidy (After.brief_reply _).regards ha
  | removeGate c g =>
    simp only [perform, removeGate] at ha
    split at ha
    · exact .inl ha
    · exact dispatch_tidy (After.brief_reply _).regards ha
  | suspendService x => exact suspendService_tidy .snapshot (fun _ _ => rfl) ha
  | resumeService x => exact resumeService_tidy .snapshot (fun _ _ => rfl) ha
  | shutdown x =>
    rw [perform, shutdown_stack] at ha
    exact .inl ha
  | startDrain d x timeout => exact startDrain_tidy ha
  | pollDrain d | giveUpDrain d =>
    simp only [perform, pollDrain, giveUpDrain, pollAt_stack] at ha
    exact .inl ha
  | request site q p => exact request_tidy ha
  | finishRequest r =>
    simp only [perform, finishRequest] at ha
    split at ha
    · exact .inl ha
    · rcases List.mem_cons.1 ha with rfl | ha
      · exact .inr trivial
      · exact .inl ha
  | cancelRequest r =>
    simp only [perform, cancelRequest] at ha
    split at ha
    · exact .inl ha
    · exact letGo_tidy (After.brief_reply _) ha
  | addListener c l offer =>
    simp only [perform, addListener] at ha
    split at ha
    · exact .inl ha
    · split at ha <;> exact .inl ha
  | dropCoordinator | dropService | advance => exact .inl ha
  | newGate | beginDrain | reopen | newCoordinator | shareCoordinator | registerGate | addGate
  | removeListener | newService | cancelDrain =>
    simp only [perform, newGate, beginDrain, reopen, newCoordinator, shareCoordinator, registerGate, addGate,
      removeListener, newService, cancelDrain] at ha
    split at ha <;> exact .inl ha

/-! ## Moves -/

/-- **Every move keeps the code tidy.** -/
theorem step_tidy (h : ∀ a ∈ m.stack, a.Tidy m.world) (move : Move) :
    ∀ a ∈ (step m move).stack, a.Tidy (step m move).world := by
  intro a ha
  refine Activation.Tidy.keeps (w := m.world) ?_ (step_tends m move).world
  unfold step at ha
  split at ha
  · exact h a ha
  -- a hook that comes back may be followed by another of the same operation
  have hback {c hook l others t after} (hs : m.stack = .hook c hook l others after :: t)
      (hb : a ∈ t ∨ ∃ hook l others, a = .hook c hook l others after) : a.Tidy m.world := by
    rw [hs] at h
    rcases hb with hb | ⟨_, _, _, rfl⟩
    · exact h a (List.mem_cons_of_mem _ hb)
    · exact h (.hook c hook l others after) List.mem_cons_self
  have htail {b t} (hs : m.stack = b :: t) (hm : a ∈ t) : a.Tidy m.world :=
    h a (by rw [hs]; exact List.mem_cons_of_mem _ hm)
  cases move with
  | call op => exact (perform_enters ha).elim (h a) id
  | ret r =>
    cases hs : m.stack with
    | nil =>
      rw [hs] at ha
      cases ha
    | cons b t =>
      simp only [hs, ret] at ha
      cases b with
      | callback g code after =>
        rw [finish_stack] at ha
        exact htail hs ha
      | hook => exact hback hs (nextHook_enters ha)
      | handler b => exact (respond_tidy ha).elim (htail hs) id
  | panic payload =>
    cases hs : m.stack with
    | nil =>
      rw [hs] at ha
      cases ha
    | cons b t =>
      simp only [hs] at ha
      cases b with
      | callback g code after => cases after <;> exact htail hs ha
      | hook => exact hback hs (nextHook_enters ha)
      | handler b => exact (letGo_tidy (After.brief_raise payload) ha).elim (htail hs) id
  | park r =>
    cases hs : m.stack with
    | nil =>
      rw [hs] at ha
      cases ha
    | cons b t =>
      simp only [hs] at ha
      cases b with
      | callback | hook => exact h a (hs ▸ ha)
      | handler b =>
        simp only [park] at ha
        split at ha
        · exact htail hs ha
        · exact h a (hs ▸ ha)

theorem run_tidy (moves : List Move) : ∀ a ∈ (run {} moves).stack, a.Tidy (run {} moves).world := by
  induction moves using List.reverseRecOn with
  | nil => exact fun a ha => nomatch ha
  | append_singleton moves move ih =>
    rw [run_snoc]
    exact step_tidy ih move

end Machine

end Sluice
