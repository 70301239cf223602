import Sluice.Proofs.Avoidance

/-!
# Operations on a coordinator in two worlds

Two worlds agree on a coordinator, and the same operation is called on it in both.

* `Op.Concerns`: the operation is called on the coordinator.
* `Op.Shared`: what an operation makes is new in both worlds or in neither, and it is not called on a
  coordinator that is left aside.
* `Same`: what is done in two worlds answers the same, enters the same code and leaves worlds that agree.
* `perform_same`: **an operation on the coordinator does the same in both worlds**.
-/

namespace Sluice

/-- The operation is called on this coordinator: itself, through a service, or through a drain. -/
def Op.Concerns (c : CoordinatorId) (w : World) : Op → Prop
  | .newCoordinator d | .shareCoordinator d | .dropCoordinator d | .suspend d | .resume d
  | .registerGate d _ _ | .addGate d _ | .removeGate d _ | .addListener d _ _ | .removeListener d _
  | .newService _ d => d = c
  | .dropService x | .suspendService x | .resumeService x | .shutdown x | .startDrain _ x _ => w.Over c x
  | .pollDrain e | .giveUpDrain e | .cancelDrain e => w.Awaits c e
  | .request site q _ =>
    match site.route q with
    | .command x _ => w.Over c x
    | _ => False
  | _ => False

/-- An operation that is called in both worlds. The identities that it takes are free in both or in neither.
It suspends, resumes or serves no coordinator that is left aside, and registers no gate that is left aside
with the coordinator. -/
def Op.Shared (c : CoordinatorId) (gs : Set GateId) (ds : Set CoordinatorId) (w₁ w₂ : World) : Op → Prop
  | .acquire _ p => w₁.issuer p = none ↔ w₂.issuer p = none
  | .releaseVia g _ => w₁.gates g = none ↔ w₂.gates g = none
  | .suspend d | .resume d => d ∉ ds
  | .registerGate d g _ | .addGate d g => d ∉ ds ∧ (d = c → g ∉ gs)
  | .newService x _ => w₁.services x = none ↔ w₂.services x = none
  | .suspendService x | .resumeService x => ∀ d ∈ ds, ¬ w₁.Over d x ∧ ¬ w₂.Over d x
  | .startDrain e x _ => (w₁.drains e = none ↔ w₂.drains e = none) ∧ ∀ d ∈ ds, ¬ w₁.Over d x ∧ ¬ w₂.Over d x
  | .request site q p =>
    match site.route q with
    | .command x _ => ∀ d ∈ ds, ¬ w₁.Over d x ∧ ¬ w₂.Over d x
    | _ => w₁.issuer p = none ↔ w₂.issuer p = none
  | _ => True

/-- What is free in both worlds or in neither. -/
theorem free_or_taken {α β : Type} {o₁ : Option α} {o₂ : Option β} (h : o₁ = none ↔ o₂ = none) :
    (o₁ = none ∧ o₂ = none) ∨ ∃ a b, o₁ = some a ∧ o₂ = some b := by
  cases o₁ with
  | none => exact .inl ⟨rfl, h.1 rfl⟩
  | some a =>
    cases o₂ with
    | none => cases h.2 rfl
    | some b => exact .inr ⟨a, b, rfl, rfl⟩

namespace World

variable {c : CoordinatorId} {gs : Set GateId} {ds : Set CoordinatorId} {w₁ w₂ : World} {k : Coordinator}

/-- A coordinator that has none of the gates left aside shows the same in both worlds. -/
theorem Agrees.snapshot_eq (h : w₁.Agrees c gs ds w₂) (hk : ∀ g ∈ k.gates, g ∉ gs) :
    w₂.snapshot k = w₁.snapshot k := by
  unfold snapshot
  rw [List.filterMap_congr fun g hg => h.gates g (hk g hg)]

end World

namespace Machine

open Http World

/-- What is done in two worlds leaves worlds that agree, has answered the same, and has entered the same
code. -/
structure Same (c : CoordinatorId) (gs : Set GateId) (ds : Set CoordinatorId) (s₁ s₂ : List Activation)
    (m₁ m₂ : Machine) : Prop where
  worlds : m₁.world.Agrees c gs ds m₂.world
  signal : m₂.signal = m₁.signal
  stack : ∃ t, m₁.stack = t ++ s₁ ∧ m₂.stack = t ++ s₂

variable {w₁ w₂ : World} {s₁ s₂ : List Activation} {c : CoordinatorId} {gs : Set GateId}
  {ds : Set CoordinatorId} {after : After}

theorem same_here (h : w₁.Agrees c gs ds w₂) (signal : Signal) :
    Same c gs ds s₁ s₂ ⟨w₁, s₁, signal⟩ ⟨w₂, s₂, signal⟩ := ⟨h, rfl, [], rfl, rfl⟩

theorem same_entered (h : w₁.Agrees c gs ds w₂) (a : Activation) (signal : Signal) :
    Same c gs ds s₁ s₂ ⟨w₁, a :: s₁, signal⟩ ⟨w₂, a :: s₂, signal⟩ := ⟨h, rfl, [a], rfl, rfl⟩

theorem finish_same (h : w₁.Agrees c gs ds w₂) (hl : w₁.Lacks c gs) (ha : after.Regards c w₁) :
    Same c gs ds s₁ s₂ (finish w₁ s₁ after) (finish w₂ s₂ after) := by
  cases after with
  | reply | raise => exact same_here h _
  | snapshot d | respond _ d =>
    obtain rfl : d = c := ha
    simp only [finish, h.coordinator]
    cases hk : w₁.coordinators d with
    | none => exact same_here h _
    | some k =>
      simp only [h.snapshot_eq (hl k hk)]
      exact same_here h _
  | firstPoll e x timeout =>
    simp only [finish, firstPoll, h.coordinatorOf ha, h.clock]
    cases w₁.coordinatorOf x with
    | none => exact same_here h _
    | some dk =>
      obtain ⟨v₁, v₂, o, e₁, e₂, hv, hx⟩ := h.poll dk.2 ⟨x, timeout, w₁.clock + timeout.toNanos⟩
      simp only [e₁, e₂]
      cases o with
      | pending => exact same_here (hv.setDrain e _) _
      | drained | timedOut => exact same_here (hv.dropService ((hx x).2 ha)) _

theorem deliver_same (h : w₁.Agrees c gs ds w₂) (hl : w₁.Lacks c gs) (ha : after.Regards c w₁) :
    Same c gs ds s₁ s₂ (deliver w₁ s₁ c after) (deliver w₂ s₂ c after) := by
  unfold deliver
  rw [h.coordinator]
  cases hk : w₁.coordinators c with
  | none => exact finish_same h hl ha
  | some k =>
    simp only
    split
    · let l : Coordinator := { k with dispatching := false }
      have hl' : (w₁.setCoordinator c l).Lacks c gs := hl.set hk rfl (List.Subset.refl _)
      exact finish_same (h.setSelf l) hl' ha
    · exact same_entered ((h.setSelf _).note _) _ _

theorem dispatch_same (h : w₁.Agrees c gs ds w₂) (hl : w₁.Lacks c gs) (ha : after.Regards c w₁) :
    Same c gs ds s₁ s₂ (dispatch w₁ s₁ c after) (dispatch w₂ s₂ c after) := by
  unfold dispatch
  rw [h.coordinator]
  cases hk : w₁.coordinators c with
  | none => exact finish_same h hl ha
  | some k =>
    simp only
    split
    · exact finish_same h hl ha
    · let l : Coordinator := { k with dispatching := true }
      have hl' : (w₁.setCoordinator c l).Lacks c gs := hl.set hk rfl (List.Subset.refl _)
      exact deliver_same (h.setSelf l) hl' ha

theorem nextHook_same (h : w₁.Agrees c gs ds w₂) (hl : w₁.Lacks c gs) (ha : after.Regards c w₁) (hook : Hook)
    (others : List Listener) :
    Same c gs ds s₁ s₂ (nextHook w₁ s₁ c hook others after) (nextHook w₂ s₂ c hook others after) := by
  unfold nextHook
  cases others with
  | nil => exact deliver_same h hl ha
  | cons l ls => exact same_entered (h.note _) _ _

theorem suspend_same (h : w₁.Agrees c gs ds w₂) (hl : w₁.Lacks c gs) (ha : after.Regards c w₁) :
    Same c gs ds s₁ s₂ (suspend w₁ s₁ c after) (suspend w₂ s₂ c after) := by
  unfold suspend
  rw [h.coordinator]
  cases hk : w₁.coordinators c with
  | none => exact same_here h _
  | some k =>
    simp only
    split
    · have hs : (w₁.suspend c k).Agrees c gs ds (w₂.suspend c k) := h.suspend rfl fun _ => ⟨rfl, hl k hk⟩
      exact dispatch_same hs (hl.suspend hk) (After.Regards.keeps ha (keeps_suspend (e := none) w₁ c k))
    · exact finish_same h hl ha

theorem resume_same (h : w₁.Agrees c gs ds w₂) (hl : w₁.Lacks c gs) (ha : after.Regards c w₁) :
    Same c gs ds s₁ s₂ (resume w₁ s₁ c after) (resume w₂ s₂ c after) := by
  unfold resume
  rw [h.coordinator]
  cases hk : w₁.coordinators c with
  | none => exact same_here h _
  | some k =>
    simp only
    split
    · exact finish_same h hl ha
    · have hs : (w₁.resume c k).Agrees c gs ds (w₂.resume c k) := h.resume rfl fun _ => rfl
      exact dispatch_same hs (hl.resume hk) (After.Regards.keeps ha (keeps_resume (e := none) w₁ c k))

theorem removeGate_same (h : w₁.Agrees c gs ds w₂) (hl : w₁.Lacks c gs) (g : GateId) :
    Same c gs ds s₁ s₂ (removeGate w₁ s₁ c g) (removeGate w₂ s₂ c g) := by
  unfold removeGate
  rw [h.coordinator]
  cases hk : w₁.coordinators c with
  | none => exact same_here h _
  | some k => exact dispatch_same (h.strike _ _) (hl.removeGate hk g) trivial

theorem addListener_same (h : w₁.Agrees c gs ds w₂) (l : Listener) (offer : SuspendState → Offer) :
    Same c gs ds s₁ s₂ (addListener w₁ s₁ c l offer) (addListener w₂ s₂ c l offer) := by
  unfold addListener
  rw [h.coordinator]
  cases w₁.coordinators c with
  | none => exact same_here h _
  | some k =>
    simp only
    split
    · exact same_here ((h.setSelf _).note _) _
    · exact same_here (h.note _) _
    · exact same_here ((h.note _).note _) _

theorem suspendService_same (h : w₁.Agrees c gs ds w₂) (hl : w₁.Lacks c gs) {x : ServiceId} (hx : w₁.Over c x)
    {after : CoordinatorId → After} (ha : (after c).Regards c w₁) :
    Same c gs ds s₁ s₂ (suspendService w₁ s₁ x after) (suspendService w₂ s₂ x after) := by
  unfold suspendService
  rw [h.coordinatorOf hx]
  cases hd : w₁.coordinatorOf x with
  | none => exact same_here h _
  | some dk =>
    obtain ⟨d, k⟩ := dk
    obtain rfl : d = c := Option.some.inj ((coordinatorOf_eq_some hd).1.symm.trans hx)
    exact suspend_same h hl ha

theorem resumeService_same (h : w₁.Agrees c gs ds w₂) (hl : w₁.Lacks c gs) {x : ServiceId} (hx : w₁.Over c x)
    {after : CoordinatorId → After} (ha : (after c).Regards c w₁) :
    Same c gs ds s₁ s₂ (resumeService w₁ s₁ x after) (resumeService w₂ s₂ x after) := by
  unfold resumeService
  rw [h.coordinatorOf hx]
  cases hd : w₁.coordinatorOf x with
  | none => exact same_here h _
  | some dk =>
    obtain ⟨d, k⟩ := dk
    obtain rfl : d = c := Option.some.inj ((coordinatorOf_eq_some hd).1.symm.trans hx)
    exact resume_same h hl ha

theorem shutdown_same (h : w₁.Agrees c gs ds w₂) {x : ServiceId} (hx : w₁.Over c x) (r : Reply) :
    Same c gs ds s₁ s₂ (shutdown w₁ s₁ x r) (shutdown w₂ s₂ x r) := by
  obtain ⟨y, hy, hyc⟩ := over_iff.1 hx
  unfold shutdown
  rw [hy, (h.services x y hyc).2 hy]
  exact same_here (h.setService fun _ => .inl hx) _

theorem startDrain_same (h : w₁.Agrees c gs ds w₂) (hl : w₁.Lacks c gs) {x : ServiceId} (hx : w₁.Over c x)
    {e : DrainId} (he : w₁.drains e = none ↔ w₂.drains e = none) (timeout : Span) :
    Same c gs ds s₁ s₂ (startDrain w₁ s₁ e x timeout) (startDrain w₂ s₂ e x timeout) := by
  obtain ⟨y, hy, hyc⟩ := over_iff.1 hx
  unfold startDrain
  rw [hy, (h.services x y hyc).2 hy]
  rcases free_or_taken he with ⟨h₁, h₂⟩ | ⟨z₁, z₂, h₁, h₂⟩ <;> rw [h₁, h₂]
  · let z : Service := { y with handles := y.handles + 1 }
    have hset : (w₁.setService x z).Agrees c gs ds (w₂.setService x z) := h.setService fun _ => .inl hx
    have hx' : (w₁.setService x z).Over c x := by
      rw [over_setService, if_pos rfl]
      exact hyc
    exact suspendService_same hset hl hx' hx'
  · exact same_here h _

theorem pollAt_same (h : w₁.Agrees c gs ds w₂) {e : DrainId} (he : w₁.Awaits c e) (deadline : Drain → Nat)
    {late : World → DrainError → World} (hlate : ∀ (v : World) err, v.Agrees c gs ds (late v err)) :
    Same c gs ds s₁ s₂ (pollAt w₁ s₁ e deadline late) (pollAt w₂ s₂ e deadline late) := by
  obtain ⟨y, hy, hx⟩ := he
  unfold pollAt
  rw [hy, (h.drains e y hx).2 hy]
  simp only
  rw [h.coordinatorOf hx]
  cases w₁.coordinatorOf y.service with
  | none => exact same_here h _
  | some dk =>
    obtain ⟨v₁, v₂, o, e₁, e₂, hv, hover⟩ := h.poll dk.2 { y with deadline := deadline y }
    simp only [e₁, e₂]
    have hx' : v₁.Over c y.service := (hover _).2 hx
    cases o with
    | pending => exact same_here hv _
    | drained => exact same_here ((hv.eraseDrain e).dropService hx') _
    | timedOut err =>
      have hlast := hv.both (hlate v₁ err) (hlate v₂ err)
      exact same_here ((hlast.eraseDrain e).dropService (((hlate v₁ err).over_self _).2 hx')) _

theorem cancelDrain_same (h : w₁.Agrees c gs ds w₂) {e : DrainId} (he : w₁.Awaits c e) :
    Same c gs ds s₁ s₂ (cancelDrain w₁ s₁ e) (cancelDrain w₂ s₂ e) := by
  obtain ⟨y, hy, hx⟩ := he
  unfold cancelDrain
  rw [hy, (h.drains e y hx).2 hy]
  exact same_here ((h.eraseDrain e).dropService hx) _

theorem command_same (h : w₁.Agrees c gs ds w₂) (hl : w₁.Lacks c gs) {x : ServiceId} (hx : w₁.Over c x)
    (o : Command) (head : Bool) :
    Same c gs ds s₁ s₂ (command w₁ s₁ x o head) (command w₂ s₂ x o head) := by
  unfold command
  rw [h.coordinatorOf hx]
  cases hd : w₁.coordinatorOf x with
  | none => exact same_here h _
  | some dk =>
    obtain ⟨d, k⟩ := dk
    obtain ⟨hs, hk⟩ := coordinatorOf_eq_some hd
    obtain rfl : d = c := Option.some.inj (hs.symm.trans hx)
    cases o with
    | health | state =>
      simp only [h.snapshot_eq (hl k hk)]
      exact same_here h _
    | suspend => exact suspendService_same h hl hx rfl
    | resume => exact resumeService_same h hl hx rfl
    | shutdown => exact shutdown_same h hx _

/-- **An operation on the coordinator** answers the same in both worlds, and enters the same code. -/
theorem perform_same (h : w₁.Agrees c gs ds w₂) (hl : w₁.Lacks c gs)
    (hs : ∀ k, w₁.coordinators c = some k → k.Sound) (ht₁ : w₁.Staffed) (ht₂ : w₂.Staffed) {op : Op}
    (hc : op.Concerns c w₁) (ho : op.Shared c gs ds w₁ w₂) :
    Same c gs ds s₁ s₂ (perform w₁ s₁ op) (perform w₂ s₂ op) := by
  cases op with
  | newCoordinator d =>
    obtain rfl : d = c := hc
    simp only [perform, newCoordinator, h.coordinator]
    cases w₁.coordinators d with
    | none => exact same_here (h.setSelf _) _
    | some k => exact same_here h _
  | shareCoordinator d =>
    obtain rfl : d = c := hc
    simp only [perform, shareCoordinator, h.coordinator]
    cases w₁.coordinators d with
    | none => exact same_here h _
    | some k => exact same_here (h.setSelf _) _
  | dropCoordinator d =>
    obtain rfl : d = c := hc
    exact same_here h.dropSelf _
  | suspend d =>
    obtain rfl : d = c := hc
    exact suspend_same h hl trivial
  | resume d =>
    obtain rfl : d = c := hc
    exact resume_same h hl trivial
  | registerGate d g name =>
    obtain rfl : d = c := hc
    have hg : g ∉ gs := ho.2 rfl
    simp only [perform, registerGate, h.coordinator, h.gates g hg]
    cases hk : w₁.coordinators d with
    | none => exact same_here h _
    | some k =>
      cases w₁.gates g with
      | some x => exact same_here h _
      | none =>
        have hset := h.setGate g { name }
        exact same_here (hset.addGate rfl (fun _ => rfl) (hs k hk) (hs k hk) hg _) _
  | addGate d g =>
    obtain rfl : d = c := hc
    have hg : g ∉ gs := ho.2 rfl
    simp only [perform, addGate, h.coordinator, h.gates g hg]
    cases hk : w₁.coordinators d with
    | none => exact same_here h _
    | some k =>
      cases w₁.gates g with
      | none => exact same_here h _
      | some x => exact same_here (h.addGate rfl (fun _ => rfl) (hs k hk) (hs k hk) hg x) _
  | removeGate d g =>
    obtain rfl : d = c := hc
    exact removeGate_same h hl g
  | addListener d l offer =>
    obtain rfl : d = c := hc
    exact addListener_same h l offer
  | removeListener d l =>
    obtain rfl : d = c := hc
    simp only [perform, removeListener, h.coordinator]
    cases w₁.coordinators d with
    | none => exact same_here h _
    | some k => exact same_here ((h.setSelf _).note _) _
  | newService x d =>
    obtain rfl : d = c := hc
    simp only [perform, newService, h.coordinator]
    rcases free_or_taken (show w₁.services x = none ↔ w₂.services x = none from ho) with
      ⟨h₁, h₂⟩ | ⟨y₁, y₂, h₁, h₂⟩ <;> rw [h₁, h₂]
    · cases w₁.coordinators d with
      | none => exact same_here h _
      | some k =>
        have hset := h.setSelf { k with handles := k.handles + 1 }
        -- nothing has waited for it
        have hnew : ∀ e y, w₁.drains e = some y ∨ w₂.drains e = some y → y.service ≠ x := by
          rintro e y (hy | hy) rfl
          · obtain ⟨z, hz⟩ := ht₁ e y hy
            cases h₁.symm.trans hz
          · obtain ⟨z, hz⟩ := ht₂ e y hy
            cases h₂.symm.trans hz
        exact same_here (hset.setService fun _ => .inr hnew) _
    · exact same_here h _
  | dropService x => exact same_here (h.dropService hc) _
  | suspendService x => exact suspendService_same h hl hc rfl
  | resumeService x => exact resumeService_same h hl hc rfl
  | shutdown x => exact shutdown_same h hc _
  | startDrain e x timeout => exact startDrain_same h hl hc ho.1 timeout
  | pollDrain e => exact pollAt_same h hc _ fun v _ => .refl v
  | giveUpDrain e => exact pollAt_same h hc _ fun _ _ => agrees_alert _
  | cancelDrain e => exact cancelDrain_same h hc
  | request site q p =>
    simp only [Op.Concerns] at hc
    split at hc
    · rename_i x o hr
      simp only [perform, request, hr]
      exact command_same h hl hc o _
    · cases hc
  | _ => cases hc

end Machine

end Sluice
