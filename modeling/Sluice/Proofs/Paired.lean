import Sluice.Proofs.Lockstep
import Sluice.Proofs.Stack

/-!
# Moves that are made in two worlds

Two worlds agree on a coordinator, and the same move is made in both.

* `fire_agrees`, `giveBack_agrees` and the like: what is done in both to a gate that is not left aside.
* `suspend_agrees`, `removeGate_agrees` and the like: what is done in both to another coordinator that is not
  left aside. It may wait for other gates in one world than in the other, but opens and closes the same.
* `Move.Shared`: a move that is made in both. `step_agrees`: **it leaves worlds that agree**.
* `Move.Concerns`, `step_same`: **one that concerns the coordinator does the same in both**.
-/

namespace Sluice

namespace World

variable {c : CoordinatorId} {gs : Set GateId} {ds : Set CoordinatorId} {w₁ w₂ : World}

/-- A service that is over none of the coordinators left aside is over the same one in both worlds, or in
neither. -/
theorem Agrees.services_cases (h : w₁.Agrees c gs ds w₂) {x : ServiceId}
    (hx : ∀ d ∈ ds, ¬ w₁.Over d x ∧ ¬ w₂.Over d x) :
    (w₁.services x = none ∧ w₂.services x = none) ∨
      ∃ y₁ y₂, w₁.services x = some y₁ ∧ w₂.services x = some y₂ ∧ y₂.coordinator = y₁.coordinator ∧
        y₁.coordinator ∉ ds := by
  cases h₁ : w₁.services x with
  | none =>
    refine .inl ⟨rfl, ?_⟩
    cases h₂ : w₂.services x with
    | none => rfl
    | some y =>
      have ho : w₂.Over y.coordinator x := over_iff.2 ⟨y, h₂, rfl⟩
      obtain ⟨z, hz, -⟩ := over_iff.1 ((h.serves _ x fun hd => (hx _ hd).2 ho).1 ho)
      cases h₁.symm.trans hz
  | some y =>
    have ho : w₁.Over y.coordinator x := over_iff.2 ⟨y, h₁, rfl⟩
    have hd : y.coordinator ∉ ds := fun hd => (hx _ hd).1 ho
    obtain ⟨z, hz, hzc⟩ := over_iff.1 ((h.serves _ x hd).2 ho)
    exact .inr ⟨y, z, rfl, hz, hzc, hd⟩

/-- Such a service finds a coordinator in both worlds, or in neither. -/
theorem Agrees.coordinatorOf_cases (h : w₁.Agrees c gs ds w₂) {x : ServiceId}
    (hx : ∀ d ∈ ds, ¬ w₁.Over d x ∧ ¬ w₂.Over d x) :
    (w₁.coordinatorOf x = none ∧ w₂.coordinatorOf x = none) ∨
      ∃ d k₁ k₂, d ∉ ds ∧ w₁.Over d x ∧ w₁.coordinatorOf x = some (d, k₁) ∧
        w₂.coordinatorOf x = some (d, k₂) := by
  rcases h.services_cases hx with ⟨h₁, h₂⟩ | ⟨y₁, y₂, h₁, h₂, hy, hd⟩
  · unfold World.coordinatorOf
    simp [h₁, h₂]
  · rcases h.others hd with ⟨e₁, e₂⟩ | ⟨k₁, k₂, e₁, e₂, -⟩
    · unfold World.coordinatorOf
      simp [h₁, h₂, hy, e₁, e₂]
    · have ho₁ : w₁.Over y₁.coordinator x := over_iff.2 ⟨y₁, h₁, rfl⟩
      have ho₂ : w₂.Over y₁.coordinator x := over_iff.2 ⟨y₂, h₂, hy⟩
      exact .inr ⟨_, k₁, k₂, hd, ho₁, Machine.coordinatorOf_eq ho₁ e₁, Machine.coordinatorOf_eq ho₂ e₂⟩

/-- A request that waits has a permit of a gate that is left aside, or waits in both worlds. -/
theorem Agrees.waiting_cases (h : w₁.Agrees c gs ds w₂) (r : RequestId) :
    ((∀ a, w₁.waiting r = some a → a.permit.gate ∈ gs) ∧ ∀ a, w₂.waiting r = some a → a.permit.gate ∈ gs) ∨
      ∃ a, w₁.waiting r = some a ∧ w₂.waiting r = some a ∧ a.permit.gate ∉ gs := by
  by_cases hv : ∃ a, w₁.waiting r = some a ∧ a.permit.gate ∉ gs
  · obtain ⟨a, ha, hg⟩ := hv
    exact .inr ⟨a, ha, (h.waiting r a hg).2 ha, hg⟩
  · refine .inl ⟨fun a ha => not_not.1 fun hg => hv ⟨a, ha, hg⟩, fun a ha => not_not.1 fun hg => ?_⟩
    exact hv ⟨a, (h.waiting r a hg).1 ha, hg⟩

theorem Agrees.eraseWaiting (h : w₁.Agrees c gs ds w₂) (r : RequestId) :
    Agrees c gs ds { w₁ with waiting := w₁.waiting.erase r } { w₂ with waiting := w₂.waiting.erase r } := by
  refine h.withWaiting fun f a ha => ?_
  unfold Table.erase
  split
  · rfl
  · exact h.waiting f a ha

theorem Agrees.setWaiting (h : w₁.Agrees c gs ds w₂) (r : RequestId) (a : Admission) :
    Agrees c gs ds { w₁ with waiting := w₁.waiting.set r a } { w₂ with waiting := w₂.waiting.set r a } := by
  refine h.withWaiting fun f b hb => ?_
  unfold Table.set
  split
  · rfl
  · exact h.waiting f b hb

end World

/-- Services and drains are as they were. -/
theorem After.Avoids.of_remainder {c : CoordinatorId} {w w' : World} {after : After} (h : after.Avoids c w)
    (hw : w'.remainder = w.remainder) : after.Avoids c w' := by
  simp only [World.remainder, Prod.mk.injEq] at hw
  obtain ⟨-, hs, hd, -⟩ := hw
  unfold After.Avoids World.Awaits World.Over at h ⊢
  rwa [hs, hd]

/-- With the return of this code no drain starts in place of one that waits for the coordinator, unless it
waits for the same. -/
def Activation.Spares (c : CoordinatorId) (w : World) : Activation → Prop
  | .hook d _ _ _ after => d = c ∨ ∀ e, after.drain? = some e → ¬ w.Awaits c e
  | _ => True

theorem Activation.Avoids.of_agrees {c : CoordinatorId} {gs : Set GateId} {ds : Set CoordinatorId}
    {w w' : World} {a : Activation} (ha : a.Avoids c gs w) (h : w.Agrees c gs ds w') : a.Avoids c gs w' := by
  cases a with
  | hook d _ _ _ after => exact ⟨ha.1, fun e he hw => ha.2 e he ((h.awaits e).1 hw)⟩
  | _ => exact ha

namespace Machine

open Http World

variable {w₁ w₂ : World} {s s₁ s₂ : List Activation} {c d : CoordinatorId} {gs : Set GateId}
  {ds : Set CoordinatorId} {after after₁ after₂ : After} {g : GateId} {p : PermitId}

/-! ## Gates that are not left aside -/

/-- What a delivery does to the world does not depend on what is left to answer. -/
theorem dispatch_world (s₁ s₂ : List Activation) (hb₁ : after₁.Brief) (hb₂ : after₂.Brief) :
    (dispatch w₁ s₁ c after₁).world = (dispatch w₁ s₂ c after₂).world := by
  rcases dispatch_blind w₁ c with ⟨v, hv⟩ | ⟨v, d, hook, l, others, hv⟩ <;> simp only at hv
  · rw [hv, hv, finish_world_of_drain hb₁.drain, finish_world_of_drain hb₂.drain]
  · rw [hv, hv]
    rfl

section Gates

variable (h : w₁.Agrees c gs ds w₂) (hi₁ : w₁.Ignores c gs) (hi₂ : w₂.Ignores c gs) (hb₁ : after₁.Brief)
  (hb₂ : after₂.Brief)
include h hb₁ hb₂

theorem finish_agrees : (finish w₁ s₁ after₁).world.Agrees c gs ds (finish w₂ s₂ after₂).world := by
  rw [finish_world_of_drain hb₁.drain, finish_world_of_drain hb₂.drain]
  exact h

include hi₁ hi₂

/-- **A gate is drained in both worlds.** -/
theorem fire_agrees (g : GateId) (callback : Option DrainCallback) :
    (fire w₁ s₁ g callback after₁).world.Agrees c gs ds (fire w₂ s₂ g callback after₂).world := by
  cases callback with
  | none => exact finish_agrees h hb₁ hb₂
  | some cb =>
    cases cb with
    | run code => exact h.note _
    | report d n =>
      by_cases hdc : d = c
      swap
      · exact h.both (fire_report_avoids (hi₁.sound d) hdc (After.avoids_of_drain hb₁.drain) g n)
          (fire_report_avoids (hi₂.sound d) hdc (After.avoids_of_drain hb₂.drain) g n)
      subst hdc
      have hn := h.note (.fired g (.report d n))
      unfold fire
      simp only [note_coordinators, h.coordinator]
      cases hk : w₁.coordinators d with
      | none => exact finish_agrees hn hb₁ hb₂
      | some k =>
        simp only
        split
        · have hdr := hn.drained k n g
          have hl : (w₁.note (.fired g (.report d n))).Lacks d gs := hi₁.lacks
          have hb := After.brief_reply .done
          rw [dispatch_world s₁ [] hb₁ hb, dispatch_world s₂ [] hb₂ hb]
          exact (dispatch_same hdr (hl.drained hk n g) hb.regards).worlds
        · exact finish_agrees hn hb₁ hb₂

/-- A permit comes back in both worlds. -/
theorem fire_returned_agrees (g : GateId) (p : PermitId) (y : Gate × Option DrainCallback) :
    (fire ((w₁.setGate g y.1).note (.returned g p)) s₁ g y.2 after₁).world.Agrees c gs ds
      (fire ((w₂.setGate g y.1).note (.returned g p)) s₂ g y.2 after₂).world :=
  fire_agrees ((h.setGate g y.1).note (.returned g p)) (hi₁.of_eq rfl) (hi₂.of_eq rfl) hb₁ hb₂ g y.2

theorem letGo_agrees {p : Permit} (hg : p.gate ∉ gs) :
    (letGo w₁ s₁ p after₁).world.Agrees c gs ds (letGo w₂ s₂ p after₂).world := by
  unfold letGo
  rw [h.gates _ hg]
  cases w₁.gates p.gate with
  | none => exact finish_agrees h hb₁ hb₂
  | some x =>
    unfold World.drop World.release
    simp only
    cases x.release? p.id with
    | none => exact finish_agrees ((h.note _).note _) hb₁ hb₂
    | some y => exact fire_returned_agrees h hi₁ hi₂ hb₁ hb₂ p.gate p.id y

omit hb₁ hb₂

theorem giveBack_agrees (hg : g ∉ gs) (p : PermitId) :
    (giveBack w₁ s₁ g p).world.Agrees c gs ds (giveBack w₂ s₂ g p).world := by
  unfold giveBack
  rw [h.gates g hg]
  cases w₁.gates g with
  | none => exact h
  | some x =>
    unfold World.release
    simp only
    cases x.release? p with
    | none => exact h.note _
    | some y => exact fire_returned_agrees h hi₁ hi₂ (After.brief_reply _) (After.brief_reply _) g p y

theorem respond_agrees {p : Permit} (hg : p.gate ∉ gs) (r : Response) :
    (respond w₁ s₁ p r).world.Agrees c gs ds (respond w₂ s₂ p r).world := by
  unfold respond
  rw [h.gates _ hg]
  cases w₁.gates p.gate with
  | none => exact h
  | some x =>
    unfold World.release
    simp only
    cases x.release? p.id with
    | none => exact (h.note _).note _
    | some y => exact fire_returned_agrees h hi₁ hi₂ (After.brief_reply _) (After.brief_reply _) p.gate p.id y

/-- The gate through which it comes may be left aside, and have another name. -/
theorem releaseVia_agrees {p : Permit} (hg : p.gate ∉ gs) (hvia : w₁.gates g = none ↔ w₂.gates g = none) :
    (releaseVia w₁ s₁ g p).world.Agrees c gs ds (releaseVia w₂ s₂ g p).world := by
  unfold releaseVia
  rw [h.gates _ hg]
  rcases free_or_taken hvia with ⟨h₁, h₂⟩ | ⟨x₁, x₂, h₁, h₂⟩ <;> rw [h₁, h₂]
  · exact h
  cases w₁.gates p.gate with
  | none => exact h
  | some y =>
    simp only
    split
    · rename_i hpg
      exact giveBack_agrees h hi₁ hi₂ (hpg ▸ hg) p.id
    · have ha := h.both (agrees_alert (.wrongGate x₁.name y.name p.id))
        (agrees_alert (.wrongGate x₂.name y.name p.id))
      exact letGo_agrees ha (hi₁.of_eq rfl) (hi₂.of_eq rfl) (After.brief_reply _) (After.brief_reply _) hg

theorem releaseTicket_agrees (hg : g ∉ gs) (t : Ticket) :
    (releaseTicket w₁ s₁ g t).world.Agrees c gs ds (releaseTicket w₂ s₂ g t).world := by
  unfold releaseTicket
  rw [h.gates g hg]
  cases w₁.gates g with
  | none => exact h
  | some x =>
    simp only
    split
    · exact giveBack_agrees h hi₁ hi₂ hg t.permit
    · exact h.note _

variable (hw₁ : w₁.Sound) (hw₂ : w₂.Sound)
include hw₁ hw₂

/-- A request comes in, or is turned away. -/
theorem behindGate_agrees (hg : g ∉ gs) (hp : w₁.issuer p = none ↔ w₂.issuer p = none) (l : Landing)
    (q : Request) :
    (behindGate w₁ s₁ g l q p).world.Agrees c gs ds (behindGate w₂ s₂ g l q p).world := by
  unfold behindGate
  rw [h.gates g hg]
  cases hx : w₁.gates g with
  | none => exact h
  | some x =>
    rcases free_or_taken hp with ⟨h₁, h₂⟩ | ⟨f₁, f₂, h₁, h₂⟩ <;> rw [h₁, h₂]
    · simp only
      split
      · cases l.own with
        | none => exact h.letIn g x p
        | some r => exact respond_agrees (p := ⟨p, g⟩) (h.letIn g x p) (hi₁.of_eq rfl) (hi₂.of_eq rfl) hg _
      · exact h.both (turnAway_avoids hw₁ hx _) (turnAway_avoids hw₂ ((h.gates g hg).trans hx) _)
    · exact h

omit hi₁ hi₂

/-- Work comes in, or is turned away. -/
theorem acquire_agrees (hg : g ∉ gs) (hp : w₁.issuer p = none ↔ w₂.issuer p = none) :
    (acquire w₁ s₁ g p).world.Agrees c gs ds (acquire w₂ s₂ g p).world := by
  unfold acquire
  rw [h.gates g hg]
  cases hx : w₁.gates g with
  | none => exact h
  | some x =>
    have hx₂ : w₂.gates g = some x := (h.gates g hg).trans hx
    rcases free_or_taken hp with ⟨h₁, h₂⟩ | ⟨f₁, f₂, h₁, h₂⟩ <;> rw [h₁, h₂]
    · simp only
      split
      · exact h.letIn g x p
      · rw [turnAway_eq hx (hw₁.gates g x hx), turnAway_eq hx₂ (hw₂.gates g x hx₂)]
        exact h
    · exact h

end Gates

/-! ## Other coordinators that are not left aside -/

section Coordinators

variable (h : w₁.Agrees c gs ds w₂)
include h

theorem suspend_agrees (hd : d ∉ ds) (hdc : d ≠ c) (ha₁ : after.Avoids c w₁) (ha₂ : after.Avoids c w₂) :
    (suspend w₁ s₁ d after).world.Agrees c gs ds (suspend w₂ s₂ d after).world := by
  unfold suspend
  rcases h.others hd with ⟨e₁, e₂⟩ | ⟨k₁, k₂, e₁, e₂, hs⟩
  · rw [e₁, e₂]
    exact h
  · rw [e₁, e₂]
    have hr := (Coordinator.stance_eq.1 hs).2.1
    by_cases hk : k₁.state = .running
    · simp only [if_pos hk, if_pos (hr.2 hk)]
      exact (h.suspend hs fun e => absurd e hdc).both
        (dispatch_avoids hdc (ha₁.of_remainder (suspend_remainder _ _ _)))
        (dispatch_avoids hdc (ha₂.of_remainder (suspend_remainder _ _ _)))
    · simp only [if_neg hk, if_neg fun e => hk (hr.1 e)]
      exact h.both (finish_avoids ha₁) (finish_avoids ha₂)

theorem resume_agrees (hd : d ∉ ds) (hdc : d ≠ c) (ha₁ : after.Avoids c w₁) (ha₂ : after.Avoids c w₂) :
    (resume w₁ s₁ d after).world.Agrees c gs ds (resume w₂ s₂ d after).world := by
  unfold resume
  rcases h.others hd with ⟨e₁, e₂⟩ | ⟨k₁, k₂, e₁, e₂, hs⟩
  · rw [e₁, e₂]
    exact h
  · rw [e₁, e₂]
    have hr := (Coordinator.stance_eq.1 hs).2.1
    by_cases hk : k₁.state = .running
    · simp only [if_pos hk, if_pos (hr.2 hk)]
      exact h.both (finish_avoids ha₁) (finish_avoids ha₂)
    · simp only [if_neg hk, if_neg fun e => hk (hr.1 e)]
      exact (h.resume hs fun e => absurd e hdc).both
        (dispatch_avoids hdc (ha₁.of_remainder (resume_remainder _ _ _)))
        (dispatch_avoids hdc (ha₂.of_remainder (resume_remainder _ _ _)))

/-- A gate that is not left aside is taken from another coordinator. -/
theorem removeGate_agrees (hs₁ : ∀ k, w₁.coordinators d = some k → k.Sound)
    (hs₂ : ∀ k, w₂.coordinators d = some k → k.Sound) (hd : d ∉ ds) (hdc : d ≠ c) (g : GateId) :
    (removeGate w₁ s₁ d g).world.Agrees c gs ds (removeGate w₂ s₂ d g).world := by
  unfold removeGate
  rcases h.others hd with ⟨e₁, e₂⟩ | ⟨k₁, k₂, e₁, e₂, hs⟩
  · rw [e₁, e₂]
    exact h
  · rw [e₁, e₂]
    simp only
    let without (k : Coordinator) : Coordinator := { k with gates := k.gates.filter (· ≠ g) }
    have hs' : (without k₂).stance gs = (without k₁).stance gs := by
      obtain ⟨hn, hr, hm⟩ := Coordinator.stance_eq.1 hs
      refine Coordinator.stance_eq.2 ⟨hn, hr, fun f hf => ?_⟩
      simp only [without, List.mem_filter, hm f hf]
    have hset : (w₁.setCoordinator d (without k₁)).Agrees c gs ds (w₂.setCoordinator d (without k₂)) :=
      h.setCoordinator d (fun e => absurd e hdc) fun _ => hs'
    have hclosed {k : Coordinator} (hk : k.Sound) (p : Pending) (hp : (without k).pending = some p) :
        (without k).state ≠ .running := hk.closed_of_pending hp
    have hleft : (w₁.removeGate d k₁ g).Agrees c gs ds (w₂.removeGate d k₂ g) :=
      hset.both (agrees_struck (k := without k₁) hdc (hclosed (hs₁ k₁ e₁)) g)
        (agrees_struck (k := without k₂) hdc (hclosed (hs₂ k₂ e₂)) g)
    exact hleft.both (dispatch_avoids hdc (After.avoids_of_drain rfl))
      (dispatch_avoids hdc (After.avoids_of_drain rfl))

/-- A gate that is not left aside is registered with another coordinator. -/
theorem addGate_agrees (hs₁ : ∀ k, w₁.coordinators d = some k → k.Sound)
    (hs₂ : ∀ k, w₂.coordinators d = some k → k.Sound) (hd : d ∉ ds) (hdc : d ≠ c) (hg : g ∉ gs) :
    (addGate w₁ s₁ d g).world.Agrees c gs ds (addGate w₂ s₂ d g).world := by
  unfold addGate
  rw [h.gates g hg]
  rcases h.others hd with ⟨e₁, e₂⟩ | ⟨k₁, k₂, e₁, e₂, hs⟩ <;> rw [e₁, e₂]
  · exact h
  · cases w₁.gates g with
    | none => exact h
    | some x => exact h.addGate hs (fun e => absurd e hdc) (hs₁ k₁ e₁) (hs₂ k₂ e₂) hg x

theorem registerGate_agrees (hs₁ : ∀ k, w₁.coordinators d = some k → k.Sound)
    (hs₂ : ∀ k, w₂.coordinators d = some k → k.Sound) (hd : d ∉ ds) (hdc : d ≠ c) (hg : g ∉ gs)
    (name : String) :
    (registerGate w₁ s₁ d g name).world.Agrees c gs ds (registerGate w₂ s₂ d g name).world := by
  unfold registerGate
  rw [h.gates g hg]
  rcases h.others hd with ⟨e₁, e₂⟩ | ⟨k₁, k₂, e₁, e₂, hs⟩ <;> rw [e₁, e₂]
  · exact h
  · cases w₁.gates g with
    | some x => exact h
    | none =>
      exact (h.setGate g { name }).addGate hs (fun e => absurd e hdc) (hs₁ k₁ e₁) (hs₂ k₂ e₂) hg _

theorem newService_agrees (hd : d ∉ ds) (hdc : d ≠ c) {x : ServiceId}
    (hx : w₁.services x = none ↔ w₂.services x = none) :
    (newService w₁ s₁ x d).world.Agrees c gs ds (newService w₂ s₂ x d).world := by
  unfold newService
  rcases free_or_taken hx with ⟨h₁, h₂⟩ | ⟨y₁, y₂, h₁, h₂⟩ <;> rw [h₁, h₂]
  · rcases h.others hd with ⟨e₁, e₂⟩ | ⟨k₁, k₂, e₁, e₂, hs⟩ <;> rw [e₁, e₂]
    · exact h
    · let held (k : Coordinator) : Coordinator := { k with handles := k.handles + 1 }
      have hset : (w₁.setCoordinator d (held k₁)).Agrees c gs ds (w₂.setCoordinator d (held k₂)) :=
        h.setCoordinator d (fun e => absurd e hdc) fun _ => hs
      exact hset.setService fun e => absurd e hdc
  · exact h

theorem suspendService_agrees {x : ServiceId} (hx : ∀ d ∈ ds, ¬ w₁.Over d x ∧ ¬ w₂.Over d x)
    (hc : ¬ w₁.Over c x) {after : CoordinatorId → After} (ha₁ : ∀ d, (after d).Avoids c w₁)
    (ha₂ : ∀ d, (after d).Avoids c w₂) :
    (suspendService w₁ s₁ x after).world.Agrees c gs ds (suspendService w₂ s₂ x after).world := by
  unfold suspendService
  rcases h.coordinatorOf_cases hx with ⟨e₁, e₂⟩ | ⟨d, k₁, k₂, hd, ho, e₁, e₂⟩ <;> rw [e₁, e₂]
  · exact h
  · exact suspend_agrees h hd (fun e => hc (e ▸ ho)) (ha₁ d) (ha₂ d)

theorem resumeService_agrees {x : ServiceId} (hx : ∀ d ∈ ds, ¬ w₁.Over d x ∧ ¬ w₂.Over d x)
    (hc : ¬ w₁.Over c x) {after : CoordinatorId → After} (ha : ∀ d, (after d).drain? = none) :
    (resumeService w₁ s₁ x after).world.Agrees c gs ds (resumeService w₂ s₂ x after).world := by
  unfold resumeService
  rcases h.coordinatorOf_cases hx with ⟨e₁, e₂⟩ | ⟨d, k₁, k₂, hd, ho, e₁, e₂⟩ <;> rw [e₁, e₂]
  · exact h
  · exact resume_agrees h hd (fun e => hc (e ▸ ho)) (After.avoids_of_drain (ha d))
      (After.avoids_of_drain (ha d))

theorem startDrain_agrees {e : DrainId} {x : ServiceId} {timeout : Span}
    (he : w₁.drains e = none ↔ w₂.drains e = none) (hx : ∀ d ∈ ds, ¬ w₁.Over d x ∧ ¬ w₂.Over d x)
    (hc : ¬ w₁.Over c x) :
    (startDrain w₁ s₁ e x timeout).world.Agrees c gs ds (startDrain w₂ s₂ e x timeout).world := by
  unfold startDrain
  rcases free_or_taken he with ⟨h₁, h₂⟩ | ⟨z₁, z₂, h₁, h₂⟩ <;> rw [h₁, h₂]
  · rcases h.services_cases hx with ⟨e₁, e₂⟩ | ⟨y₁, y₂, e₁, e₂, hy, hd⟩ <;> rw [e₁, e₂]
    · exact h
    -- one holder more does not change what the service is over
    have hyc : y₁.coordinator ≠ c := fun e => hc (over_iff.2 ⟨y₁, e₁, e⟩)
    let held (y : Service) : Service := { y with handles := y.handles + 1 }
    have hset : (w₁.setService x (held y₁)).Agrees c gs ds (w₂.setService x (held y₂)) :=
      h.both (agrees_setService e₁ hyc rfl) (agrees_setService e₂ (hy.trans_ne hyc) rfl)
    have hover {w : World} {y : Service} (hw : w.services x = some y) (d : CoordinatorId) :
        (w.setService x (held y)).Over d x ↔ w.Over d x := by
      rw [over_setService, if_pos rfl, over_iff]
      simp [hw, held]
    have hnew {w : World} {y : Service} (hw : w.services x = some y) (hn : w.drains e = none)
        (hcx : ¬ w.Over c x) (d : CoordinatorId) :
        (After.firstPoll e x timeout).Avoids c (w.setService x (held y)) := by
      rintro f z t ⟨⟩
      refine ⟨fun ho => hcx ((hover hw c).1 ho), ?_⟩
      rintro ⟨z, hz, -⟩
      cases hn.symm.trans hz
    refine suspendService_agrees hset (fun f hf => ?_) (fun ho => hc ((hover e₁ c).1 ho)) (hnew e₁ h₁ hc)
      (hnew e₂ h₂ fun ho => hc ((h.over_self x).1 ho))
    exact ⟨fun ho => (hx f hf).1 ((hover e₁ f).1 ho), fun ho => (hx f hf).2 ((hover e₂ f).1 ho)⟩
  · exact h

/-- An operator's command for a service over another coordinator. -/
theorem command_agrees {x : ServiceId} (hx : ∀ d ∈ ds, ¬ w₁.Over d x ∧ ¬ w₂.Over d x) (hc : ¬ w₁.Over c x)
    (o : Command) (head : Bool) :
    (command w₁ s₁ x o head).world.Agrees c gs ds (command w₂ s₂ x o head).world := by
  unfold command
  rcases h.coordinatorOf_cases hx with ⟨e₁, e₂⟩ | ⟨d, k₁, k₂, -, -, e₁, e₂⟩ <;> rw [e₁, e₂]
  · exact h
  · cases o with
    | health | state => exact h
    | suspend =>
      exact suspendService_agrees h hx hc (fun _ => After.avoids_of_drain rfl) fun _ =>
        After.avoids_of_drain rfl
    | resume => exact resumeService_agrees h hx hc fun _ => rfl
    | shutdown =>
      have hc₂ : ¬ w₂.Over c x := fun ho => hc ((h.over_self x).1 ho)
      exact h.both (shutdown_avoids hc _) (shutdown_avoids hc₂ _)

end Coordinators

/-! ## Moves -/

section Moves

variable (h : w₁.Agrees c gs ds w₂) (hw₁ : w₁.Sound) (hw₂ : w₂.Sound) (hi₁ : w₁.Ignores c gs)
  (hi₂ : w₂.Ignores c gs) (hc : c ∉ ds)
include h hw₁ hw₂ hi₁ hi₂ hc

/-- A request for no service over the coordinator is answered in both worlds. -/
theorem request_agrees {site : Site} {q : Request} (hcon : ¬ (Op.request site q p).Concerns c w₁)
    (ho : (Op.request site q p).Shared c gs ds w₁ w₂) :
    (request w₁ s₁ site q p).world.Agrees c gs ds (request w₂ s₂ site q p).world := by
  simp only [Op.Concerns] at hcon
  simp only [Op.Shared] at ho
  have hboth (h₁ : (Op.request site q p).Avoids c gs ds w₁) (h₂ : (Op.request site q p).Avoids c gs ds w₂) :
      (request w₁ s₁ site q p).world.Agrees c gs ds (request w₂ s₂ site q p).world :=
    h.both (perform_avoids hw₁ hi₁ hc h₁) (perform_avoids hw₂ hi₂ hc h₂)
  simp only [Op.Avoids] at hboth
  unfold request at hboth ⊢
  cases hr : site.route q with
  | command x o =>
    simp only [hr] at hcon ho
    exact command_agrees h ho hcon o _
  | gated g l =>
    simp only [hr] at ho hboth
    by_cases hg : g ∈ gs
    · exact hboth hg hg
    · exact behindGate_agrees h hi₁ hi₂ hw₁ hw₂ hg ho l q
  | own r => exact h

variable (ht₁ : w₁.Staffed) (ht₂ : w₂.Staffed)
include ht₁ ht₂

/-- **An operation that is called in both worlds** leaves worlds that agree. -/
theorem perform_agrees {op : Op} (ho : op.Shared c gs ds w₁ w₂) :
    (perform w₁ s₁ op).world.Agrees c gs ds (perform w₂ s₂ op).world := by
  by_cases hcon : op.Concerns c w₁
  · have hs : Same c gs ds s₁ s₂ (perform w₁ s₁ op) (perform w₂ s₂ op) :=
      perform_same h hi₁.lacks (hi₁.sound c) ht₁ ht₂ hcon ho
    exact hs.worlds
  have hboth (h₁ : op.Avoids c gs ds w₁) (h₂ : op.Avoids c gs ds w₂) :
      (perform w₁ s₁ op).world.Agrees c gs ds (perform w₂ s₂ op).world :=
    h.both (perform_avoids hw₁ hi₁ hc h₁) (perform_avoids hw₂ hi₂ hc h₂)
  cases op with
  | newGate g name =>
    by_cases hg : g ∈ gs
    · exact hboth hg hg
    simp only [perform, newGate, h.gates g hg]
    cases w₁.gates g with
    | some x => exact h
    | none => exact h.setGate g _
  | acquire g p =>
    by_cases hg : g ∈ gs
    · exact hboth hg hg
    · exact acquire_agrees h hw₁ hw₂ hg ho
  | release p =>
    by_cases hg : p.gate ∈ gs
    · exact hboth hg hg
    · exact giveBack_agrees h hi₁ hi₂ hg p.id
  | releaseVia g p =>
    by_cases hg : p.gate ∈ gs
    · exact hboth hg hg
    · exact releaseVia_agrees h hi₁ hi₂ hg ho
  | drop p =>
    by_cases hg : p.gate ∈ gs
    · exact hboth hg hg
    · exact letGo_agrees h hi₁ hi₂ (After.brief_reply _) (After.brief_reply _) hg
  | releaseTicket g t =>
    by_cases hg : g ∈ gs
    · exact hboth (fun _ => hg) fun _ => hg
    · exact releaseTicket_agrees h hi₁ hi₂ hg t
  | beginDrain g code =>
    by_cases hg : g ∈ gs
    · exact hboth hg hg
    simp only [perform, beginDrain, h.gates g hg]
    cases w₁.gates g with
    | none => exact h
    | some x => exact h.beginDrain g x _
  | reopen g =>
    by_cases hg : g ∈ gs
    · exact hboth hg hg
    simp only [perform, reopen, h.gates g hg]
    cases w₁.gates g with
    | none => exact h
    | some x => exact h.reopen g x
  | newCoordinator d =>
    by_cases hd : d ∈ ds
    · exact hboth hd hd
    simp only [perform, newCoordinator]
    rcases h.others hd with ⟨e₁, e₂⟩ | ⟨k₁, k₂, e₁, e₂, -⟩ <;> rw [e₁, e₂]
    · exact h.setCoordinator d (fun _ => rfl) fun _ => rfl
    · exact h
  | shareCoordinator | dropCoordinator | addListener | removeListener => exact hboth hcon hcon
  | suspend d => exact suspend_agrees h ho hcon (After.avoids_of_drain rfl) (After.avoids_of_drain rfl)
  | resume d => exact resume_agrees h ho hcon (After.avoids_of_drain rfl) (After.avoids_of_drain rfl)
  | registerGate d g name =>
    by_cases hg : g ∈ gs
    · exact hboth ⟨hcon, hg⟩ ⟨hcon, hg⟩
    · exact registerGate_agrees h (hi₁.sound d) (hi₂.sound d) ho.1 hcon hg name
  | addGate d g =>
    by_cases hg : g ∈ gs
    · exact hboth ⟨hcon, hg⟩ ⟨hcon, hg⟩
    · exact addGate_agrees h (hi₁.sound d) (hi₂.sound d) ho.1 hcon hg
  | removeGate d g =>
    by_cases hd : d ∈ ds ∨ g ∈ gs
    · exact hboth ⟨hcon, hd⟩ ⟨hcon, hd⟩
    · exact removeGate_agrees h (hi₁.sound d) (hi₂.sound d) (fun e => hd (.inl e)) hcon g
  | newService x d =>
    by_cases hd : d ∈ ds
    · exact hboth hd hd
    · exact newService_agrees h hd hcon ho
  | dropService x | shutdown x => exact hboth hcon fun hx => hcon ((h.over_self x).1 hx)
  | suspendService x =>
    exact suspendService_agrees h ho hcon (fun _ => After.avoids_of_drain rfl) fun _ =>
      After.avoids_of_drain rfl
  | resumeService x => exact resumeService_agrees h ho hcon fun _ => rfl
  | startDrain e x timeout => exact startDrain_agrees h ho.1 ho.2 hcon
  | pollDrain e | giveUpDrain e | cancelDrain e => exact hboth hcon fun he => hcon ((h.awaits e).1 he)
  | request site q p => exact request_agrees h hw₁ hw₂ hi₁ hi₂ hc hcon ho
  | finishRequest r =>
    rcases h.waiting_cases r with ⟨h₁, h₂⟩ | ⟨a, h₁, h₂, -⟩
    · exact hboth h₁ h₂
    · simp only [perform, finishRequest, h₁, h₂]
      exact h.eraseWaiting r
  | cancelRequest r =>
    rcases h.waiting_cases r with ⟨h₁, h₂⟩ | ⟨a, h₁, h₂, hg⟩
    · exact hboth h₁ h₂
    · simp only [perform, cancelRequest, h₁, h₂]
      exact letGo_agrees (h.eraseWaiting r) (hi₁.of_eq rfl) (hi₂.of_eq rfl) (After.brief_reply _)
        (After.brief_reply _) hg
  | advance nanos => exact h.advance nanos

end Moves

/-- What holds of a machine that has run, and the coordinator has none of the gates that are left aside. -/
structure Fit (c : CoordinatorId) (gs : Set GateId) (m : Machine) : Prop where
  sound : m.world.Sound
  staffed : m.world.Staffed
  ignores : m.world.Ignores c gs
  tidy : ∀ a ∈ m.stack, a.Tidy m.world

/-- A move that is made in both machines. What is called can be, and code that comes back is the same. -/
def Move.Shared (c : CoordinatorId) (gs : Set GateId) (ds : Set CoordinatorId) (m₁ m₂ : Machine) : Move → Prop
  | .call op => op.Shared c gs ds m₁.world m₂.world
  | .park r => m₂.stack.head? = m₁.stack.head? ∧ (m₁.world.waiting r = none ↔ m₂.world.waiting r = none)
  | _ => m₂.stack.head? = m₁.stack.head? ∧ ∀ a, m₁.stack.head? = some a → a.Spares c m₁.world

/-- The move concerns the coordinator: it calls an operation on it, or a hook of it comes back. -/
def Move.Concerns (c : CoordinatorId) (m : Machine) : Move → Prop
  | .call op => op.Concerns c m.world
  | .park _ => False
  | _ => ∃ h l others after, m.stack.head? = some (.hook c h l others after)

/-- The code that a move leaves as it is. -/
def Move.outer (s : List Activation) : Move → List Activation
  | .call _ => s
  | _ => s.tail

variable {m₁ m₂ : Machine} {move : Move} {a : Activation}

/-- The same code comes back in both: it is left aside in both, or in neither. -/
theorem head_cases (h : w₁.Agrees c gs ds w₂) (hs : s₂.head? = s₁.head?) :
    ((∀ a, s₁.head? = some a → a.Avoids c gs w₁) ∧ ∀ a, s₂.head? = some a → a.Avoids c gs w₂) ∨
      ∃ a t₁ t₂, s₁ = a :: t₁ ∧ s₂ = a :: t₂ ∧ ¬ a.Avoids c gs w₁ := by
  rw [hs]
  cases s₁ with
  | nil => simp
  | cons a t₁ =>
    obtain ⟨t₂, rfl⟩ := List.head?_eq_some_iff.1 hs
    by_cases ha : a.Avoids c gs w₁
    · left
      constructor <;> rintro b ⟨⟩
      · exact ha
      · exact ha.of_agrees h
    · exact .inr ⟨a, t₁, t₂, rfl, rfl, ha⟩

/-- Code that is not left aside, and no hook of the coordinator, is a handler with a permit of another
gate. -/
theorem exists_handler (ha : ¬ a.Avoids c gs w₁) (hh : ∀ h l others after, a ≠ .hook c h l others after)
    (hs : a.Spares c w₁) : ∃ b, a = .handler b ∧ b.permit.gate ∉ gs := by
  cases a with
  | callback => exact absurd trivial ha
  | hook d h l others after =>
    rcases hs with rfl | hs
    · exact absurd rfl (hh h l others after)
    · exact absurd ⟨fun e => hh h l others after (by rw [e]), hs⟩ ha
  | handler b => exact ⟨b, rfl, ha⟩

section Steps

variable (h : m₁.world.Agrees c gs ds m₂.world) (hf₁ : Fit c gs m₁) (hf₂ : Fit c gs m₂)
include h hf₁ hf₂

/-- **A move that concerns the coordinator does the same in both**: it leads to the same, enters the same
code, and leaves worlds that agree. -/
theorem step_same (ha₁ : m₁.signal ≠ .aborted) (ha₂ : m₂.signal ≠ .aborted) (hm : move.Concerns c m₁)
    (ho : move.Shared c gs ds m₁ m₂) :
    Same c gs ds (move.outer m₁.stack) (move.outer m₂.stack) (step m₁ move) (step m₂ move) := by
  obtain ⟨w₁, s₁, o₁⟩ := m₁
  obtain ⟨w₂, s₂, o₂⟩ := m₂
  unfold step
  rw [if_neg ha₁, if_neg ha₂]
  have hl : w₁.Lacks c gs := hf₁.ignores.lacks
  cases move with
  | call op => exact perform_same h hl (hf₁.ignores.sound c) hf₁.staffed hf₂.staffed hm ho
  | ret r =>
    obtain ⟨hook, l, others, after, hs⟩ := hm
    obtain ⟨t₁, rfl⟩ := List.head?_eq_some_iff.1 hs
    obtain ⟨t₂, rfl⟩ := List.head?_eq_some_iff.1 (ho.1.trans hs)
    have hr : after.Regards c w₁ := hf₁.tidy (.hook c hook l others after) List.mem_cons_self
    exact nextHook_same h hl hr hook others
  | panic payload =>
    obtain ⟨hook, l, others, after, hs⟩ := hm
    obtain ⟨t₁, rfl⟩ := List.head?_eq_some_iff.1 hs
    obtain ⟨t₂, rfl⟩ := List.head?_eq_some_iff.1 (ho.1.trans hs)
    have hr : after.Regards c w₁ := hf₁.tidy (.hook c hook l others after) List.mem_cons_self
    exact nextHook_same (h.note _) hl hr hook others
  | park r => cases hm

/-- **A move that is made in both machines** leaves worlds that agree. -/
theorem step_agrees (hc : c ∉ ds) (ha : m₁.signal = .aborted ↔ m₂.signal = .aborted)
    (ho : move.Shared c gs ds m₁ m₂) : (step m₁ move).world.Agrees c gs ds (step m₂ move).world := by
  by_cases ha₁ : m₁.signal = .aborted
  · rw [step_of_aborted ha₁, step_of_aborted (ha.1 ha₁)]
    exact h
  have ha₂ : m₂.signal ≠ .aborted := fun e => ha₁ (ha.2 e)
  by_cases hcon : move.Concerns c m₁
  · exact (step_same h hf₁ hf₂ ha₁ ha₂ hcon ho).worlds
  obtain ⟨w₁, s₁, o₁⟩ := m₁
  obtain ⟨w₂, s₂, o₂⟩ := m₂
  have hi₁ : w₁.Ignores c gs := hf₁.ignores
  have hi₂ : w₂.Ignores c gs := hf₂.ignores
  have hboth (h₁ : move.Avoids c gs ds ⟨w₁, s₁, o₁⟩) (h₂ : move.Avoids c gs ds ⟨w₂, s₂, o₂⟩) :
      (step ⟨w₁, s₁, o₁⟩ move).world.Agrees c gs ds (step ⟨w₂, s₂, o₂⟩ move).world :=
    h.both (step_avoids hf₁.sound hi₁ hc hf₁.tidy h₁) (step_avoids hf₂.sound hi₂ hc hf₂.tidy h₂)
  unfold step at hboth ⊢
  rw [if_neg ha₁, if_neg ha₂] at hboth ⊢
  cases move with
  | call op => exact perform_agrees h hf₁.sound hf₂.sound hi₁ hi₂ hc hf₁.staffed hf₂.staffed ho
  | ret r =>
    rcases head_cases h ho.1 with ⟨h₁, h₂⟩ | ⟨a, t₁, t₂, rfl, rfl, hna⟩
    · exact hboth h₁ h₂
    · have hhook (hk l others after) : a ≠ .hook c hk l others after := fun e =>
        hcon ⟨hk, l, others, after, congrArg some e⟩
      obtain ⟨b, rfl, hg⟩ := exists_handler hna hhook (ho.2 a rfl)
      exact respond_agrees h hi₁ hi₂ hg _
  | panic payload =>
    rcases head_cases h ho.1 with ⟨h₁, h₂⟩ | ⟨a, t₁, t₂, rfl, rfl, hna⟩
    · exact hboth h₁ h₂
    · have hhook (hk l others after) : a ≠ .hook c hk l others after := fun e =>
        hcon ⟨hk, l, others, after, congrArg some e⟩
      obtain ⟨b, rfl, hg⟩ := exists_handler hna hhook (ho.2 a rfl)
      exact letGo_agrees h hi₁ hi₂ (After.brief_raise _) (After.brief_raise _) hg
  | park r =>
    rcases head_cases h ho.1 with ⟨h₁, h₂⟩ | ⟨a, t₁, t₂, rfl, rfl, -⟩
    · exact hboth h₁ h₂
    cases a with
    | callback | hook => exact h
    | handler b =>
      simp only [park]
      rcases free_or_taken ho.2 with ⟨h₁, h₂⟩ | ⟨b₁, b₂, h₁, h₂⟩ <;> rw [h₁, h₂]
      · exact h.setWaiting r b
      · exact h

end Steps

end Machine

end Sluice
