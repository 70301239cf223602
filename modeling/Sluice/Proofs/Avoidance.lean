import Sluice.Proofs.Agreement

/-!
# Moves that leave a coordinator alone

* `Op.Avoids`, `Activation.Avoids`, `Move.Avoids`: an operation, code that comes back, and a move that concern
  only gates and coordinators that are left aside.
* `World.Ignores`: the coordinator has none of these gates. `fire_avoids`: **what such a gate reports changes
  nothing** about it, whatever callback the gate has kept.
* `perform_avoids`, `step_avoids`: **a move that leaves a coordinator alone** leaves a world that agrees on
  it.
-/

namespace Sluice

namespace World

/-- The coordinator is left aside, and so are all its gates. -/
def Remote (w : World) (gs : Set GateId) (ds : Set CoordinatorId) (d : CoordinatorId) : Prop :=
  d ∈ ds ∧ ∀ k, w.coordinators d = some k → ∀ g ∈ k.gates, g ∈ gs

/-- A coordinator has none of these gates. -/
def Lacks (w : World) (c : CoordinatorId) (gs : Set GateId) : Prop :=
  ∀ k, w.coordinators c = some k → ∀ g ∈ k.gates, g ∉ gs

/-- A coordinator has none of these gates, and nothing is queued for its listeners unless it delivers. -/
structure Ignores (w : World) (c : CoordinatorId) (gs : Set GateId) : Prop where
  sound : ∀ d k, w.coordinators d = some k → k.Sound
  lacks : w.Lacks c gs
  idle : ∀ k, w.coordinators c = some k → k.dispatching = false → k.outbox = []

variable {w w' : World} {c : CoordinatorId} {k : Coordinator} {gs : Set GateId} {g : GateId}

theorem Lacks.set {d : CoordinatorId} {k' : Coordinator} (h : w.Lacks c gs) (hk : w.coordinators d = some k)
    (hc : w'.coordinators = w.coordinators.set d k') (hg : k'.gates ⊆ k.gates) : w'.Lacks c gs := by
  intro l hl g hm
  rw [hc] at hl
  rcases Table.set_cases hl with ⟨rfl, rfl⟩ | ⟨-, hl⟩
  · exact h k hk g (hg hm)
  · exact h l hl g hm

section Lacks

variable {d : CoordinatorId} (h : w.Lacks c gs) (hk : w.coordinators d = some k)
include h hk

theorem Lacks.suspend : (w.suspend d k).Lacks c gs := by
  refine h.set hk (suspend_coordinators w d k) ?_
  rw [Coordinator.suspendedWith_gates]
  exact List.Subset.refl _

theorem Lacks.resume : (w.resume d k).Lacks c gs := by
  refine h.set hk (resume_coordinators w d k) ?_
  rw [Coordinator.reopening_gates]
  exact List.Subset.refl _

theorem Lacks.strike (g : GateId) : (w.strike d k g).Lacks c gs := by
  refine h.set hk (strike_coordinators w d k g) ?_
  rw [Coordinator.struck_gates]
  exact List.Subset.refl _

theorem Lacks.drained (n : Nat) (g : GateId) : (w.drained d k n g).Lacks c gs := by
  rcases drained_cases w d k n g with ⟨e, -⟩ | ⟨e, -⟩ <;> rw [e]
  · exact h.strike hk g
  · exact h

theorem Lacks.removeGate (g : GateId) : (w.removeGate d k g).Lacks c gs := by
  refine h.set hk (strike_coordinators w d _ g) ?_
  rw [Coordinator.struck_gates]
  exact List.filter_sublist.subset

end Lacks

theorem Ignores.of_eq (h : w.Ignores c gs) (he : w'.coordinators = w.coordinators) : w'.Ignores c gs :=
  ⟨he ▸ h.sound, fun k hk => h.lacks k (he ▸ hk), he ▸ h.idle⟩

/-- **A coordinator ignores what a gate reports that it does not have**, in whichever attempt. -/
theorem Ignores.drained_eq (h : w.Ignores c gs) (hk : w.coordinators c = some k) (hg : g ∈ gs) (n : Nat) :
    w.drained c k n g = w := by
  have hwaits (p : Pending) (hp : k.pending = some p) : p.waitsFor g ≠ true := fun hm =>
    h.lacks k hk g (((h.sound c k hk).waits p hp).registered g hm) hg
  rcases drained_cases w c k n g with ⟨e, -⟩ | ⟨e, -⟩
  · rw [e]
    rcases strike_cases w c k g with ⟨e, -⟩ | ⟨-, -, p, hp, hm⟩
    · rw [e, Coordinator.struck_eq_self _ _ _ hwaits]
      unfold setCoordinator
      rw [Table.set_eq_self hk]
    · exact absurd hm (hwaits p hp)
  · exact e

end World

/-- What is left of an operation starts no drain for this coordinator, nor in place of one. -/
def After.Avoids (c : CoordinatorId) (w : World) (after : After) : Prop :=
  ∀ d x timeout, after = .firstPoll d x timeout → ¬ w.Over c x ∧ ¬ w.Awaits c d

namespace After

variable {w w' : World} {c : CoordinatorId} {gs : Set GateId} {ds : Set CoordinatorId} {after : After}

theorem avoids_of_drain (h : after.drain? = none) : after.Avoids c w := by
  rintro d x timeout rfl
  cases h

theorem Avoids.of_agrees (h : after.Avoids c w) (hw : w.Agrees c gs ds w') : after.Avoids c w' := by
  intro d x timeout he
  obtain ⟨hx, hd⟩ := h d x timeout he
  exact ⟨fun h => hx ((hw.over_self x).1 h), fun h => hd ((hw.awaits d).1 h)⟩

end After

/-- The operation is called on nothing but gates and coordinators that are left aside, or does not touch the
gates of a coordinator that it is called on. -/
def Op.Avoids (c : CoordinatorId) (gs : Set GateId) (ds : Set CoordinatorId) (w : World) : Op → Prop
  | .newGate g _ | .acquire g _ | .beginDrain g _ | .reopen g => g ∈ gs
  | .release p | .releaseVia _ p | .drop p => p.gate ∈ gs
  | .releaseTicket g t => t.gate = g → g ∈ gs
  | .newCoordinator d | .newService _ d => d ∈ ds
  | .shareCoordinator d | .dropCoordinator d | .addListener d _ _ | .removeListener d _ => d ≠ c
  | .suspend d | .resume d => w.Remote gs ds d
  | .registerGate d g _ | .addGate d g => d ≠ c ∧ g ∈ gs
  | .removeGate d g => d ≠ c ∧ (d ∈ ds ∨ g ∈ gs)
  | .dropService x | .shutdown x => ¬ w.Over c x
  | .suspendService x | .resumeService x | .startDrain _ x _ => ∀ d, w.Over d x → w.Remote gs ds d
  | .pollDrain d | .giveUpDrain d | .cancelDrain d => ¬ w.Awaits c d
  | .request site q _ =>
    match site.route q with
    | .command x .suspend | .command x .resume => ∀ d, w.Over d x → w.Remote gs ds d
    | .command x .shutdown => ¬ w.Over c x
    | .command _ _ => True
    | .gated g _ => g ∈ gs
    | .own _ => True
  | .finishRequest r | .cancelRequest r => ∀ a, w.waiting r = some a → a.permit.gate ∈ gs
  | .advance _ => False

/-- The code is no hook of this coordinator, has no permit of a gate but those left aside, and puts no drain
in the place of one that waits for the coordinator. -/
def Activation.Avoids (c : CoordinatorId) (gs : Set GateId) (w : World) : Activation → Prop
  | .callback _ _ _ => True
  | .hook d _ _ _ after => d ≠ c ∧ ∀ e, after.drain? = some e → ¬ w.Awaits c e
  | .handler a => a.permit.gate ∈ gs

namespace Machine

open Http World

/-- The move leaves a coordinator alone: it concerns only gates and coordinators that are left aside. -/
def Move.Avoids (c : CoordinatorId) (gs : Set GateId) (ds : Set CoordinatorId) (m : Machine) : Move → Prop
  | .call op => op.Avoids c gs ds m.world
  | _ => ∀ a, m.stack.head? = some a → a.Avoids c gs m.world

variable {w w' v : World} {s : List Activation} {c d : CoordinatorId} {gs : Set GateId}
  {ds : Set CoordinatorId} {after : After} {g : GateId} {p : PermitId} {m : Machine} {a : Activation}

/-! ## What is left of an operation, and hooks -/

theorem finish_world_of_drain (h : after.drain? = none) : (finish w s after).world = w := by
  cases after with
  | reply | raise => rfl
  | snapshot d | respond _ d =>
    simp only [finish]
    split <;> rfl
  | firstPoll => cases h

theorem finish_avoids (ha : after.Avoids c w) : w.Agrees c gs ds (finish w s after).world := by
  cases after with
  | reply | raise | snapshot | respond => rw [finish_world_of_drain rfl]; exact .refl w
  | firstPoll d x timeout =>
    obtain ⟨hx, hd⟩ := ha d x timeout rfl
    simp only [finish, firstPoll]
    split
    · exact .refl w
    rename_i k _
    have hp : w.Agrees c gs ds (w.poll k ⟨x, timeout, w.clock + timeout.toNanos⟩).1 := agrees_poll k _
    split
    · rename_i v hv
      rw [hv] at hp
      refine hp.trans (agrees_setDrain (fun h => hd ((hp.awaits d).1 h)) fun h => hx ?_)
      exact (hp.over_self x).1 h
    · rename_i v o _ hv
      rw [hv] at hp
      exact hp.trans (agrees_dropService fun h => hx ((hp.over_self x).1 h))

theorem enterHook_avoids (hdc : d ≠ c) (h : Hook) (l : Listener) (others : List Listener) :
    w.Agrees c gs ds (enterHook w s d h l others after).world := agrees_note (decide_eq_false hdc)

theorem deliver_avoids (hdc : d ≠ c) (ha : after.Avoids c w) :
    w.Agrees c gs ds (deliver w s d after).world := by
  unfold deliver
  split
  · exact finish_avoids ha
  · rename_i k hk
    have hset {l : Coordinator} (hl : l.stance gs = k.stance gs) : w.Agrees c gs ds (w.setCoordinator d l) :=
      agrees_setCoordinator_of_eq hdc hk hl
    split
    · refine (hset (l := { k with dispatching := false }) rfl).trans ?_
      exact finish_avoids ha
    · rename_i rest _
      refine (hset (l := { k with outbox := rest }) rfl).trans ?_
      exact enterHook_avoids hdc _ _ _

theorem dispatch_avoids (hdc : d ≠ c) (ha : after.Avoids c w) :
    w.Agrees c gs ds (dispatch w s d after).world := by
  unfold dispatch
  split
  · exact finish_avoids ha
  · rename_i k hk
    split
    · exact finish_avoids ha
    · let l : Coordinator := { k with dispatching := true }
      have hset : w.Agrees c gs ds (w.setCoordinator d l) := agrees_setCoordinator_of_eq hdc hk rfl
      exact hset.trans (deliver_avoids hdc ha)

theorem nextHook_avoids (hdc : d ≠ c) (ha : after.Avoids c w) (h : Hook) (others : List Listener) :
    w.Agrees c gs ds (nextHook w s d h others after).world := by
  unfold nextHook
  split
  · exact deliver_avoids hdc ha
  · exact enterHook_avoids hdc _ _ _

/-- A delivery that finds nothing queued. -/
theorem dispatch_idle (hi : w.Ignores c gs) (ha : after.Avoids c w) :
    w.Agrees c gs ds (dispatch w s c after).world := by
  cases hk : w.coordinators c with
  | none =>
    unfold dispatch
    rw [hk]
    exact finish_avoids ha
  | some k =>
    cases hd : k.dispatching with
    | false =>
      rw [dispatch_eq_finish hk (hi.idle k hk hd) hd]
      exact finish_avoids ha
    | true =>
      unfold dispatch
      simp only [hk, hd, if_true]
      exact finish_avoids ha

/-- A gate reports to another coordinator. -/
theorem fire_report_avoids (hs : ∀ k, w.coordinators d = some k → k.Sound) (hdc : d ≠ c)
    (ha : after.Avoids c w) (g : GateId) (n : Nat) :
    w.Agrees c gs ds (fire w s g (some (.report d n)) after).world := by
  have hnote : w.Agrees c gs ds (w.note (.fired g (.report d n))) := agrees_note rfl
  unfold fire
  simp only [note_coordinators]
  cases hk : w.coordinators d with
  | none => exact hnote.trans (finish_avoids (ha.of_agrees hnote))
  | some k =>
    simp only
    split
    · have hdr : w.Agrees c gs ds ((w.note (.fired g (.report d n))).drained d k n g) :=
        hnote.trans (agrees_drained (w := w.note _) hdc hk (hs k hk) n g)
      exact hdr.trans (dispatch_avoids hdc (ha.of_agrees hdr))
    · exact hnote.trans (finish_avoids (ha.of_agrees hnote))

/-- **A gate that is left aside is drained**: its callback, whichever it is and however old, changes nothing
about the coordinator and enters no hook of it. -/
theorem fire_avoids (hi : w.Ignores c gs) (hg : g ∈ gs) (ha : after.Avoids c w)
    (callback : Option DrainCallback) : w.Agrees c gs ds (fire w s g callback after).world := by
  cases callback with
  | none => exact finish_avoids ha
  | some cb =>
    cases cb with
    | run code => exact agrees_note rfl
    | report d n =>
      by_cases hdc : d = c
      swap
      · exact fire_report_avoids (hi.sound d) hdc ha g n
      subst hdc
      -- the report does not count, and nothing has been queued
      let v : World := w.note (.fired g (.report d n))
      have hv : w.Agrees d gs ds v := agrees_note rfl
      have hi' : v.Ignores d gs := hi.of_eq rfl
      have ha' : after.Avoids d v := ha
      unfold fire
      simp only [note_coordinators]
      cases hk : w.coordinators d with
      | none => exact hv.trans (finish_avoids ha')
      | some k =>
        simp only
        split
        · have hdr : v.drained d k n g = v := hi'.drained_eq hk hg n
          rw [hdr]
          exact hv.trans (dispatch_idle hi' ha')
        · exact hv.trans (finish_avoids ha')

/-! ## Gates that are left aside -/

section Gates

/-- A gate that asks nobody: what is turned away leaves no trace. -/
theorem turnAway_avoids (hw : w.Sound) {x : Gate} (hx : w.gates g = some x) (edit : Edit) :
    w.Agrees c gs ds (turnAway w s g x edit).world := by
  unfold turnAway
  rw [turnAway_eq hx (hw.gates g x hx)]
  exact .refl w

theorem acquire_avoids (hw : w.Sound) (hg : g ∈ gs) (p : PermitId) :
    w.Agrees c gs ds (acquire w s g p).world := by
  unfold acquire
  split
  · rename_i x hx _
    split
    · exact agrees_letIn hg p
    · rw [turnAway_eq hx (hw.gates g x hx)]
      exact .refl w
  · exact .refl w

variable (hi : w.Ignores c gs)
include hi

/-- A permit has come back. -/
theorem fire_returned_avoids (hg : g ∈ gs) (ha : after.drain? = none) (p : PermitId)
    (y : Gate × Option DrainCallback) :
    w.Agrees c gs ds (fire ((w.setGate g y.1).note (.returned g p)) s g y.2 after).world := by
  have hi' : ((w.setGate g y.1).note (.returned g p)).Ignores c gs := hi.of_eq rfl
  have hset : w.Agrees c gs ds ((w.setGate g y.1).note (.returned g p)) :=
    (agrees_setGate hg).trans (agrees_note rfl)
  exact hset.trans (fire_avoids hi' hg (After.avoids_of_drain ha) y.2)

theorem giveBack_avoids (hg : g ∈ gs) (p : PermitId) : w.Agrees c gs ds (giveBack w s g p).world := by
  unfold giveBack
  split
  · exact .refl w
  rename_i x _
  unfold World.release
  cases x.release? p with
  | none => exact agrees_alert _
  | some y => exact fire_returned_avoids hi hg rfl p y

theorem letGo_avoids {p : Permit} (hg : p.gate ∈ gs) (ha : after.drain? = none) :
    w.Agrees c gs ds (letGo w s p after).world := by
  unfold letGo
  split
  · exact finish_avoids (After.avoids_of_drain ha)
  rename_i x _
  unfold World.drop World.release
  cases x.release? p.id with
  | none =>
    have halert (e : GateError) : w.Agrees c gs ds
        ((w.alert (.releasedTwice x.name p.id)).alert (.lostPermit x.name p.id e)) :=
      (agrees_alert _).trans (agrees_alert _)
    exact (halert _).trans (finish_avoids (After.avoids_of_drain ha))
  | some y => exact fire_returned_avoids hi hg ha p.id y

theorem releaseVia_avoids {p : Permit} (hg : p.gate ∈ gs) :
    w.Agrees c gs ds (releaseVia w s g p).world := by
  unfold releaseVia
  split
  · split
    · rename_i hpg
      exact giveBack_avoids hi (hpg ▸ hg) p.id
    · rename_i x y _ _ _
      have hi' : (w.alert (.wrongGate x.name y.name p.id)).Ignores c gs := hi.of_eq rfl
      exact (agrees_alert _).trans (letGo_avoids hi' hg rfl)
  · exact .refl w

theorem releaseTicket_avoids {t : Ticket} (hg : t.gate = g → g ∈ gs) :
    w.Agrees c gs ds (releaseTicket w s g t).world := by
  unfold releaseTicket
  split
  · exact .refl w
  · split
    · rename_i ht
      exact giveBack_avoids hi (hg ht) t.permit
    · exact agrees_alert _

theorem respond_avoids {p : Permit} (hg : p.gate ∈ gs) (r : Response) :
    w.Agrees c gs ds (respond w s p r).world := by
  unfold respond
  split
  · exact .refl w
  rename_i x _
  unfold World.release
  cases x.release? p.id with
  | none => exact (agrees_alert _).trans (agrees_alert _)
  | some y => exact fire_returned_avoids hi hg rfl p.id y

theorem behindGate_avoids (hw : w.Sound) (hg : g ∈ gs) (l : Landing) (q : Request) (p : PermitId) :
    w.Agrees c gs ds (behindGate w s g l q p).world := by
  unfold behindGate
  split
  · rename_i x hx _
    split
    · split
      · exact agrees_letIn hg p
      · have hi' : (w.letIn g x p).Ignores c gs := hi.of_eq rfl
        exact (agrees_letIn hg p).trans (respond_avoids (p := ⟨p, g⟩) hi' hg _)
    · exact turnAway_avoids hw hx _
  · exact .refl w

end Gates

/-! ## Coordinators, services and drains that are left aside -/

section Coordinators

variable (hc : c ∉ ds)
include hc

theorem suspend_avoids (hd : w.Remote gs ds d) (ha : after.Avoids c w) :
    w.Agrees c gs ds (suspend w s d after).world := by
  have hdc : d ≠ c := fun e => hc (e ▸ hd.1)
  unfold suspend
  split
  · exact .refl w
  · rename_i k hk
    split
    · have hs : w.Agrees c gs ds (w.suspend d k) := agrees_suspend hdc hd.1 (hd.2 k hk)
      exact hs.trans (dispatch_avoids hdc (ha.of_agrees hs))
    · exact finish_avoids ha

theorem resume_avoids (hd : w.Remote gs ds d) (ha : after.drain? = none) :
    w.Agrees c gs ds (resume w s d after).world := by
  have hdc : d ≠ c := fun e => hc (e ▸ hd.1)
  unfold resume
  split
  · exact .refl w
  · rename_i k hk
    split
    · exact finish_avoids (After.avoids_of_drain ha)
    · have hs : w.Agrees c gs ds (w.resume d k) := agrees_resume hdc hd.1 (hd.2 k hk)
      exact hs.trans (dispatch_avoids hdc (After.avoids_of_drain ha))

theorem suspendService_avoids {x : ServiceId} {after : CoordinatorId → After}
    (hd : ∀ d, w.Over d x → w.Remote gs ds d) (ha : ∀ d, (after d).Avoids c w) :
    w.Agrees c gs ds (suspendService w s x after).world := by
  unfold suspendService
  split
  · exact .refl w
  · rename_i d k hx
    exact suspend_avoids hc (hd d (coordinatorOf_eq_some hx).1) (ha d)

theorem resumeService_avoids {x : ServiceId} {after : CoordinatorId → After}
    (hd : ∀ d, w.Over d x → w.Remote gs ds d) (ha : ∀ d, (after d).drain? = none) :
    w.Agrees c gs ds (resumeService w s x after).world := by
  unfold resumeService
  split
  · exact .refl w
  · rename_i d k hx
    exact resume_avoids hc (hd d (coordinatorOf_eq_some hx).1) (ha d)

theorem startDrain_avoids {e : DrainId} {x : ServiceId} {timeout : Span}
    (hd : ∀ d, w.Over d x → w.Remote gs ds d) :
    w.Agrees c gs ds (startDrain w s e x timeout).world := by
  unfold startDrain
  split
  swap
  · exact .refl w
  rename_i y he hy
  have hyc : y.coordinator ≠ c := fun h => hc (hd c (over_iff.2 ⟨y, hy, h⟩)).1
  have hset : w.Agrees c gs ds (w.setService x { y with handles := y.handles + 1 }) :=
    agrees_setService hy hyc rfl
  have hover (d : CoordinatorId) :
      (w.setService x { y with handles := y.handles + 1 }).Over d x ↔ w.Over d x := by
    rw [over_setService, if_pos rfl, over_iff]
    simp [hy]
  refine hset.trans (suspendService_avoids hc (fun d hx => hd d ((hover d).1 hx)) fun _ f z t h => ?_)
  cases h
  refine ⟨fun hx => hc (hd c ((hover c).1 hx)).1, ?_⟩
  rintro ⟨z, hz, -⟩
  cases he.symm.trans hz

omit hc in
theorem pollAt_avoids {e : DrainId} (he : ¬ w.Awaits c e) (deadline : Drain → Nat)
    {late : World → DrainError → World} (hlate : ∀ (v : World) err, v.Agrees c gs ds (late v err)) :
    w.Agrees c gs ds (pollAt w s e deadline late).world := by
  unfold pollAt
  split
  · exact .refl w
  rename_i y hy
  split
  · exact .refl w
  rename_i k _
  -- the drain has ended, and lets go of its service
  have hend {v : World} (hv : w.Agrees c gs ds v) :
      w.Agrees c gs ds ({ v with drains := v.drains.erase e }.dropService y.service) := by
    have herase := hv.trans (agrees_eraseDrain fun h => he ((hv.awaits e).1 h))
    exact herase.trans (agrees_dropService fun h => he ⟨y, hy, (hv.over_self _).1 h⟩)
  have hp : w.Agrees c gs ds (w.poll k { y with deadline := deadline y }).1 := agrees_poll k _
  split
  · rename_i v hv
    rw [hv] at hp
    exact hp
  · rename_i v o _ hv
    rw [hv] at hp
    cases o with
    | timedOut err => exact hend (hp.trans (hlate v err))
    | drained | pending => exact hend hp

omit hc in
theorem shutdown_avoids {x : ServiceId} (hx : ¬ w.Over c x) (r : Reply) :
    w.Agrees c gs ds (shutdown w s x r).world := by
  unfold shutdown
  split
  · exact .refl w
  · rename_i y hy
    exact agrees_setService hy (fun e => hx (over_iff.2 ⟨y, hy, e⟩)) rfl

/-- An operator's command for a service over a coordinator that is left aside. -/
theorem command_avoids {x : ServiceId} {o : Command} (head : Bool)
    (hd : o = .suspend ∨ o = .resume → ∀ d, w.Over d x → w.Remote gs ds d)
    (hx : o = .shutdown → ¬ w.Over c x) :
    w.Agrees c gs ds (command w s x o head).world := by
  unfold command
  split
  · exact .refl w
  · cases o with
    | health | state => exact .refl w
    | suspend => exact suspendService_avoids hc (hd (.inl rfl)) fun _ => After.avoids_of_drain rfl
    | resume => exact resumeService_avoids hc (hd (.inr rfl)) fun _ => rfl
    | shutdown => exact shutdown_avoids (hx rfl) _

end Coordinators

/-! ## Moves -/

/-- A request that waits is forgotten. -/
theorem agrees_eraseWaiting {r : RequestId} (hr : ∀ a, w.waiting r = some a → a.permit.gate ∈ gs) :
    w.Agrees c gs ds { w with waiting := w.waiting.erase r } := by
  refine agrees_waiting fun r' a ha => ?_
  by_cases h : r' = r
  · subst h
    rw [Table.erase_self]
    exact iff_of_false (Option.some_ne_none a).symm fun h => ha (hr a h)
  · rw [Table.erase_of_ne _ h]

/-- **An operation that leaves a coordinator alone** leaves a world that agrees on it. -/
theorem perform_avoids (hw : w.Sound) (hi : w.Ignores c gs) (hc : c ∉ ds) {op : Op}
    (ho : op.Avoids c gs ds w) : w.Agrees c gs ds (perform w s op).world := by
  cases op with
  | newGate g name =>
    simp only [perform, newGate]
    split
    · exact .refl w
    · exact agrees_setGate ho
  | acquire g p => exact acquire_avoids hw ho p
  | release p => exact giveBack_avoids hi ho p.id
  | releaseVia g p => exact releaseVia_avoids hi ho
  | drop p => exact letGo_avoids hi ho rfl
  | releaseTicket g t => exact releaseTicket_avoids hi ho
  | beginDrain g code =>
    simp only [perform, beginDrain]
    split
    · exact .refl w
    · exact agrees_beginDrain ho _
  | reopen g =>
    simp only [perform, reopen]
    split
    · exact .refl w
    · exact agrees_reopen ho
  | newCoordinator d =>
    simp only [perform, newCoordinator]
    split
    · exact .refl w
    · exact agrees_setCoordinator (fun e => hc (e ▸ ho)) fun hd => absurd ho hd
  | shareCoordinator d =>
    simp only [perform, shareCoordinator]
    split
    · exact .refl w
    · rename_i k hk
      exact agrees_setCoordinator_of_eq ho hk rfl
  | dropCoordinator d => exact agrees_dropCoordinator ho
  | suspend d => exact suspend_avoids hc ho (After.avoids_of_drain rfl)
  | resume d => exact resume_avoids hc ho rfl
  | registerGate d g name =>
    obtain ⟨hdc, hg⟩ := ho
    simp only [perform, registerGate]
    split
    · rename_i k hk _
      exact (agrees_setGate hg).trans (agrees_addGate hdc hk (hi.sound d k hk) hg)
    · exact .refl w
  | addGate d g =>
    obtain ⟨hdc, hg⟩ := ho
    simp only [perform, addGate]
    split
    · rename_i k x hk hx
      exact agrees_addGate hdc hk (hi.sound d k hk) hg
    · exact .refl w
  | removeGate d g =>
    obtain ⟨hdc, hg⟩ := ho
    simp only [perform, removeGate]
    split
    · exact .refl w
    · rename_i k hk
      have hs : w.Agrees c gs ds (w.removeGate d k g) :=
        agrees_removeGate hdc hk (hi.sound d k hk) hg
      exact hs.trans (dispatch_avoids hdc (After.avoids_of_drain rfl))
  | addListener d l offer =>
    simp only [perform, addListener]
    split
    · exact .refl w
    · rename_i k hk
      have hnote (v : World) (b : Bool) : v.Agrees c gs ds (v.note (.offered d l k.state b)) :=
        agrees_note (decide_eq_false ho)
      split
      · refine Agrees.trans ?_ (hnote _ true)
        exact agrees_setCoordinator_of_eq ho hk rfl
      · exact hnote w false
      · exact (agrees_alert _).trans (hnote _ false)
  | removeListener d l =>
    simp only [perform, removeListener]
    split
    · exact .refl w
    · rename_i k hk
      have hnote (v : World) : v.Agrees c gs ds (v.note (.unsubscribed d l)) :=
        agrees_note (decide_eq_false ho)
      refine Agrees.trans ?_ (hnote _)
      exact agrees_setCoordinator_of_eq ho hk rfl
  | newService x d =>
    simp only [perform, newService]
    split
    · rename_i k hx hk
      have hdc : d ≠ c := fun e => hc (e ▸ ho)
      have hset : w.Agrees c gs ds (w.setCoordinator d { k with handles := k.handles + 1 }) :=
        agrees_setCoordinator_of_eq hdc hk rfl
      refine hset.trans ?_
      exact agrees_newService hx hdc ho
    · exact .refl w
  | dropService x => exact agrees_dropService ho
  | suspendService x => exact suspendService_avoids hc ho fun _ => After.avoids_of_drain rfl
  | resumeService x => exact resumeService_avoids hc ho fun _ => rfl
  | shutdown x => exact shutdown_avoids ho _
  | startDrain e x timeout => exact startDrain_avoids hc ho
  | pollDrain e => exact pollAt_avoids ho _ fun v _ => .refl v
  | giveUpDrain e => exact pollAt_avoids ho _ fun _ _ => agrees_alert _
  | cancelDrain e =>
    simp only [perform, cancelDrain]
    split
    · exact .refl w
    · rename_i y hy
      exact (agrees_eraseDrain ho).trans (agrees_dropService fun h => ho ⟨y, hy, h⟩)
  | request site q p =>
    simp only [Op.Avoids] at ho
    simp only [perform, request]
    cases hr : site.route q with
    | command x o =>
      rw [hr] at ho
      refine command_avoids hc _ ?_ ?_
      · rintro (rfl | rfl) <;> exact ho
      · rintro rfl
        exact ho
    | gated g l =>
      rw [hr] at ho
      exact behindGate_avoids hi hw ho l q p
    | own r => exact .refl w
  | finishRequest r =>
    simp only [perform, finishRequest]
    split
    · exact .refl w
    · exact agrees_eraseWaiting ho
  | cancelRequest r =>
    simp only [perform, cancelRequest]
    split
    · exact .refl w
    · rename_i a ha
      have hi' : ({ w with waiting := w.waiting.erase r } : World).Ignores c gs := hi.of_eq rfl
      exact (agrees_eraseWaiting ho).trans (letGo_avoids hi' (ho a ha) rfl)
  | advance => cases ho

/-- **A move that leaves a coordinator alone** leaves a world that agrees on it: no gate of it, no coordinator
that shares one, and no hook of it is touched. -/
theorem step_avoids (hw : m.world.Sound) (hi : m.world.Ignores c gs) (hc : c ∉ ds)
    (ht : ∀ a ∈ m.stack, a.Tidy m.world) {move : Move} (hm : move.Avoids c gs ds m) :
    m.world.Agrees c gs ds (step m move).world := by
  obtain ⟨w, s, signal⟩ := m
  unfold step
  split
  · exact .refl w
  -- a hook of another coordinator comes back
  have hback {d h l others after t} (hs : s = .hook d h l others after :: t)
      (ha : Activation.Avoids c gs w (.hook d h l others after)) : after.Avoids c w := by
    rintro e x timeout rfl
    have hx : w.Over d x :=
      ht (.hook d h l others (.firstPoll e x timeout)) (by rw [hs]; exact List.mem_cons_self)
    exact ⟨fun hcx => ha.1 (Option.some.inj (hx.symm.trans hcx)), ha.2 e rfl⟩
  cases move with
  | call op => exact perform_avoids hw hi hc hm
  | ret r =>
    cases s with
    | nil => exact .refl w
    | cons a t =>
      have ha : a.Avoids c gs w := hm a rfl
      cases a with
      | callback g code after =>
        have hb : after.Brief := ht (.callback g code after) List.mem_cons_self
        exact finish_avoids (After.avoids_of_drain hb.drain)
      | hook d h l others after => exact nextHook_avoids ha.1 (hback rfl ha) _ _
      | handler b => exact respond_avoids hi ha _
  | panic payload =>
    cases s with
    | nil => exact .refl w
    | cons a t =>
      have ha : a.Avoids c gs w := hm a rfl
      cases a with
      | callback g code after => cases after <;> exact .refl w
      | hook d h l others after =>
        let v : World := w.alert (.listenerPanicked l.name h.name payload)
        have hv : after.Avoids c v := hback rfl ha
        exact (agrees_alert _).trans (nextHook_avoids (w := v) ha.1 hv h others)
      | handler b => exact letGo_avoids hi ha rfl
  | park r =>
    cases s with
    | nil => exact .refl w
    | cons a t =>
      have ha : a.Avoids c gs w := hm a rfl
      cases a with
      | callback | hook => exact .refl w
      | handler b =>
        simp only [park]
        split
        · rename_i hr
          refine agrees_waiting fun r' a' ha' => ?_
          by_cases h : r' = r
          · subst h
            rw [Table.set_self, hr]
            exact iff_of_false (fun h => ha' (Option.some.inj h ▸ ha)) (Option.some_ne_none a').symm
          · rw [Table.set_of_ne _ _ h]
        · exact .refl w

end Machine

end Sluice
