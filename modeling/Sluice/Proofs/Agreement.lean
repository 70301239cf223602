import Mathlib.Data.Set.Basic
import Sluice.Proofs.Entered
import Sluice.Proofs.Performs

/-!
# Worlds that agree on a coordinator

Two worlds are looked at from one coordinator. Some gates, which it does not have, are left aside, and so
are some coordinators. Of the others only that counts by which they open and close gates.

* `Coordinator.stance`: what a coordinator does to gates depends on this.
* `World.Awaits`: a drain that waits for the coordinator.
* `World.Agrees`: the worlds agree. `agrees_setGate`, `agrees_suspend` and the like: what is done to a gate or
  a coordinator that is left aside leaves a world that agrees. `Agrees.suspend`, `Agrees.addGate` and the
  like: what is done in both worlds keeps them so.
-/

namespace Sluice

/-- How a coordinator opens and closes gates: its generation, whether it runs, and its gates. -/
structure Stance where
  generation : Nat
  runs : Prop
  gates : Set GateId

namespace Coordinator

variable {gs : Set GateId} {k k' : Coordinator} {g : GateId}

/-- How a coordinator opens and closes gates, but for some that are left aside. -/
def stance (gs : Set GateId) (k : Coordinator) : Stance :=
  ⟨k.generation, k.state = .running, {g | g ∈ k.gates ∧ g ∉ gs}⟩

theorem stance_eq : k'.stance gs = k.stance gs ↔ k'.generation = k.generation ∧
    (k'.state = .running ↔ k.state = .running) ∧ ∀ g, g ∉ gs → (g ∈ k'.gates ↔ g ∈ k.gates) := by
  unfold stance
  rw [Stance.mk.injEq, eq_iff_iff, Set.ext_iff]
  refine and_congr_right' (and_congr_right' (forall_congr' fun g => ?_))
  simp only [Set.mem_ofPred_eq, and_congr_left_iff]

/-- To wait for a gate no longer does not make a coordinator run, nor stop. -/
theorem stance_struck (hp : ∀ p, k.pending = some p → k.state ≠ .running) (g : GateId) (date : String) :
    (k.struck g date).stance gs = k.stance gs := by
  refine stance_eq.2 ⟨struck_generation _ _ _, ?_, fun f _ => by rw [struck_gates]⟩
  rcases struck_cases k g date with ⟨q, e⟩ | ⟨e, p, hk, -⟩ <;> rw [e]
  simp only [completed_state, hp p hk, reduceCtorEq]

theorem stance_suspendedWith (h : k'.stance gs = k.stance gs) (busy busy' : List (GateId × String))
    (date date' : String) :
    (k'.suspendedWith busy' date').stance gs = (k.suspendedWith busy date).stance gs := by
  obtain ⟨hn, -, hg⟩ := stance_eq.1 h
  have hclosed (l : Coordinator) (b : List (GateId × String)) (t : String) :
      (l.suspendedWith b t).state ≠ .running := by
    rw [suspendedWith_state]
    split <;> decide
  refine stance_eq.2 ⟨?_, iff_of_false (hclosed _ _ _) (hclosed _ _ _), fun f hf => ?_⟩
  · rw [suspendedWith_generation, suspendedWith_generation, hn]
  · rw [suspendedWith_gates, suspendedWith_gates]
    exact hg f hf

theorem stance_reopening (h : k'.stance gs = k.stance gs) :
    k'.reopening.stance gs = k.reopening.stance gs := by
  obtain ⟨hn, -, hg⟩ := stance_eq.1 h
  refine stance_eq.2 ⟨?_, iff_of_true rfl rfl, fun f hf => ?_⟩
  · rw [reopening_generation, reopening_generation, hn]
  · rw [reopening_gates, reopening_gates]
    exact hg f hf

theorem stance_joined (h : k'.stance gs = k.stance gs) (g : GateId) (name : String) (busy busy' : Bool) :
    (k'.joined g name busy').stance gs = (k.joined g name busy).stance gs := by
  obtain ⟨hn, hr, hg⟩ := stance_eq.1 h
  refine stance_eq.2 ⟨hn, hr, fun f hf => ?_⟩
  simp only [joined, List.mem_append, hg f hf]

theorem stance_joined_of_mem (hg : g ∈ gs) (name : String) (busy : Bool) :
    (k.joined g name busy).stance gs = k.stance gs := by
  refine stance_eq.2 ⟨rfl, Iff.rfl, fun f hf => ?_⟩
  have hfg : f ≠ g := fun e => hf (e ▸ hg)
  simp [joined, hfg]

end Coordinator

namespace World

/-- The drain is one that waits for this coordinator. -/
def Awaits (w : World) (c : CoordinatorId) (d : DrainId) : Prop :=
  ∃ y, w.drains d = some y ∧ w.Over c y.service

/-- Two worlds agree on a coordinator and on all that it has to do with, if some gates and some coordinators
are left aside. -/
structure Agrees (c : CoordinatorId) (gs : Set GateId) (ds : Set CoordinatorId) (w w' : World) : Prop where
  gates : ∀ g, g ∉ gs → w'.gates g = w.gates g
  coordinator : w'.coordinators c = w.coordinators c
  history : w'.history c = w.history c
  stances : ∀ d, d ∉ ds →
    (w'.coordinators d).map (Coordinator.stance gs) = (w.coordinators d).map (Coordinator.stance gs)
  serves : ∀ d x, d ∉ ds → (w'.Over d x ↔ w.Over d x)
  services : ∀ x y, y.coordinator = c → (w'.services x = some y ↔ w.services x = some y)
  drains : ∀ d y, w.Over c y.service → (w'.drains d = some y ↔ w.drains d = some y)
  waiting : ∀ r a, a.permit.gate ∉ gs → (w'.waiting r = some a ↔ w.waiting r = some a)
  clock : w'.clock = w.clock
  date : w'.date = w.date

variable {c d : CoordinatorId} {gs : Set GateId} {ds : Set CoordinatorId} {w w' w'' w₁ w₂ v₁ v₂ : World}
  {k k₁ k₂ : Coordinator} {g : GateId} {x y : Gate} {o : Occurrence}

theorem Agrees.over_self (h : w.Agrees c gs ds w') (s : ServiceId) : w'.Over c s ↔ w.Over c s := by
  rw [over_iff, over_iff]
  exact exists_congr fun y => and_congr_left fun hy => h.services s y hy

theorem Agrees.refl (w : World) : w.Agrees c gs ds w :=
  ⟨fun _ _ => rfl, rfl, rfl, fun _ _ => rfl, fun _ _ _ => Iff.rfl, fun _ _ _ => Iff.rfl, fun _ _ _ => Iff.rfl,
    fun _ _ _ => Iff.rfl, rfl, rfl⟩

theorem Agrees.symm (h : w.Agrees c gs ds w') : w'.Agrees c gs ds w :=
  ⟨fun g hg => (h.gates g hg).symm, h.coordinator.symm, h.history.symm, fun d hd => (h.stances d hd).symm,
    fun d x hd => (h.serves d x hd).symm, fun x y hy => (h.services x y hy).symm,
    fun d y hy => (h.drains d y ((h.over_self _).1 hy)).symm, fun r a ha => (h.waiting r a ha).symm,
    h.clock.symm, h.date.symm⟩

theorem Agrees.trans (h : w.Agrees c gs ds w') (h' : w'.Agrees c gs ds w'') : w.Agrees c gs ds w'' :=
  ⟨fun g hg => (h'.gates g hg).trans (h.gates g hg), h'.coordinator.trans h.coordinator,
    h'.history.trans h.history, fun d hd => (h'.stances d hd).trans (h.stances d hd),
    fun d x hd => (h'.serves d x hd).trans (h.serves d x hd),
    fun x y hy => (h'.services x y hy).trans (h.services x y hy),
    fun d y hy => (h'.drains d y ((h.over_self _).2 hy)).trans (h.drains d y hy),
    fun r a ha => (h'.waiting r a ha).trans (h.waiting r a ha), h'.clock.trans h.clock,
    h'.date.trans h.date⟩

/-- What each world becomes agrees if it does. -/
theorem Agrees.both (h : w₁.Agrees c gs ds w₂) (h₁ : w₁.Agrees c gs ds v₁) (h₂ : w₂.Agrees c gs ds v₂) :
    v₁.Agrees c gs ds v₂ := (h₁.symm.trans h).trans h₂

/-- A service over the coordinator finds the same in both worlds. -/
theorem Agrees.coordinatorOf (h : w.Agrees c gs ds w') {s : ServiceId} (hs : w.Over c s) :
    w'.coordinatorOf s = w.coordinatorOf s := by
  obtain ⟨y, hy, rfl⟩ := over_iff.1 hs
  unfold World.coordinatorOf
  rw [hy, (h.services s y rfl).2 hy]
  simp only [Option.bind_eq_bind, Option.bind_some, h.coordinator]

theorem Agrees.awaits (h : w.Agrees c gs ds w') (e : DrainId) : w'.Awaits c e ↔ w.Awaits c e := by
  refine exists_congr fun y => ⟨fun ⟨hy, hx⟩ => ?_, fun ⟨hy, hx⟩ => ?_⟩
  · have hx' := (h.over_self _).1 hx
    exact ⟨(h.drains e y hx').1 hy, hx'⟩
  · exact ⟨(h.drains e y hx).2 hy, (h.over_self _).2 hx⟩

/-- A coordinator that is not left aside is there in both worlds or in neither. -/
theorem Agrees.others (h : w₁.Agrees c gs ds w₂) (hd : d ∉ ds) :
    (w₁.coordinators d = none ∧ w₂.coordinators d = none) ∨
      ∃ k₁ k₂, w₁.coordinators d = some k₁ ∧ w₂.coordinators d = some k₂ ∧ k₂.stance gs = k₁.stance gs := by
  have hs := h.stances d hd
  cases h₁ : w₁.coordinators d <;> cases h₂ : w₂.coordinators d <;> simp only [h₁, h₂] at hs
  · exact .inl ⟨rfl, rfl⟩
  · cases hs
  · cases hs
  · exact .inr ⟨_, _, rfl, rfl, Option.some.inj hs⟩

/-- Only gates, coordinators and the journal have changed. -/
theorem Agrees.of_remainder (h : w₁.Agrees c gs ds w₂) (h₁ : v₁.remainder = w₁.remainder)
    (h₂ : v₂.remainder = w₂.remainder) (hg : ∀ g, g ∉ gs → v₂.gates g = v₁.gates g)
    (hc : v₂.coordinators c = v₁.coordinators c) (hh : v₂.history c = v₁.history c)
    (hs : ∀ d, d ∉ ds → (v₂.coordinators d).map (Coordinator.stance gs) =
      (v₁.coordinators d).map (Coordinator.stance gs)) : v₁.Agrees c gs ds v₂ := by
  simp only [remainder, Prod.mk.injEq] at h₁ h₂
  obtain ⟨-, hx₁, hd₁, hw₁, ht₁, hdate₁⟩ := h₁
  obtain ⟨-, hx₂, hd₂, hw₂, ht₂, hdate₂⟩ := h₂
  have ho₁ (e : CoordinatorId) (x : ServiceId) : v₁.Over e x ↔ w₁.Over e x := by
    unfold Over
    rw [hx₁]
  have ho₂ (e : CoordinatorId) (x : ServiceId) : v₂.Over e x ↔ w₂.Over e x := by
    unfold Over
    rw [hx₂]
  refine ⟨hg, hc, hh, hs, fun e x he => ?_, fun x y hy => ?_, fun e y hy => ?_, fun r a ha => ?_, ?_, ?_⟩
  · rw [ho₁, ho₂]
    exact h.serves e x he
  · rw [hx₁, hx₂]
    exact h.services x y hy
  · rw [hd₁, hd₂]
    exact h.drains e y ((ho₁ _ _).1 hy)
  · rw [hw₁, hw₂]
    exact h.waiting r a ha
  · rw [ht₁, ht₂, h.clock]
  · rw [hdate₁, hdate₂, h.date]

/-! ## The journal and the gates -/

theorem agrees_note (ho : o.concerns c = false) : w.Agrees c gs ds (w.note o) := by
  refine (Agrees.refl w).of_remainder rfl rfl (fun _ _ => rfl) rfl ?_ fun _ _ => rfl
  rw [history_note, ho]
  rfl

theorem agrees_alert (a : Alert) : w.Agrees c gs ds (w.alert a) := agrees_note rfl

theorem Agrees.note (h : w₁.Agrees c gs ds w₂) (o : Occurrence) : (w₁.note o).Agrees c gs ds (w₂.note o) := by
  refine h.of_remainder rfl rfl h.gates h.coordinator ?_ h.stances
  rw [history_note, history_note, h.history]

theorem agrees_setGate (hg : g ∈ gs) : w.Agrees c gs ds (w.setGate g x) := by
  refine (Agrees.refl w).of_remainder rfl rfl (fun f hf => ?_) rfl rfl fun _ _ => rfl
  exact Table.set_of_ne _ _ fun e => hf (e ▸ hg)

theorem Agrees.setGate (h : w₁.Agrees c gs ds w₂) (g : GateId) (x : Gate) :
    (w₁.setGate g x).Agrees c gs ds (w₂.setGate g x) := by
  refine h.of_remainder rfl rfl (fun f hf => ?_) h.coordinator h.history h.stances
  rw [setGate_gates, setGate_gates]
  unfold Table.set
  rw [h.gates f hf]

/-- Whose permits are out is another matter. -/
theorem Agrees.withIssuer (h : w₁.Agrees c gs ds w₂) (t₁ t₂ : Table PermitId GateId) :
    Agrees c gs ds { w₁ with issuer := t₁ } { w₂ with issuer := t₂ } :=
  ⟨h.gates, h.coordinator, h.history, h.stances, h.serves, h.services, h.drains, h.waiting, h.clock, h.date⟩

theorem agrees_letIn (hg : g ∈ gs) (p : PermitId) : w.Agrees c gs ds (w.letIn g x p) := by
  have hset : w.Agrees c gs ds (w.setGate g (x.letIn p)) := agrees_setGate hg
  exact (hset.withIssuer w.issuer (w.issuer.set p g)).trans (agrees_note rfl)

theorem Agrees.letIn (h : w₁.Agrees c gs ds w₂) (g : GateId) (x : Gate) (p : PermitId) :
    (w₁.letIn g x p).Agrees c gs ds (w₂.letIn g x p) :=
  ((h.setGate g (x.letIn p)).withIssuer (w₁.issuer.set p g) (w₂.issuer.set p g)).note _

theorem agrees_beginDrain (hg : g ∈ gs) (cb : DrainCallback) : w.Agrees c gs ds (w.beginDrain g x cb).1 :=
  (agrees_setGate hg).trans (agrees_note rfl)

theorem Agrees.beginDrain (h : w₁.Agrees c gs ds w₂) (g : GateId) (x : Gate) (cb : DrainCallback) :
    (w₁.beginDrain g x cb).1.Agrees c gs ds (w₂.beginDrain g x cb).1 := (h.setGate g _).note _

theorem agrees_reopen (hg : g ∈ gs) : w.Agrees c gs ds (w.reopen g x) :=
  (agrees_setGate hg).trans (agrees_note rfl)

theorem Agrees.reopen (h : w₁.Agrees c gs ds w₂) (g : GateId) (x : Gate) :
    (w₁.reopen g x).Agrees c gs ds (w₂.reopen g x) := (h.setGate g _).note _

/-! ## Coordinators -/

/-- Beside gates, another coordinator has changed. It stands as it did unless it is left aside. -/
theorem agrees_of_set (hdc : d ≠ c) (hr : v₁.remainder = w.remainder)
    (he : v₁.coordinators = w.coordinators.set d k)
    (hs : d ∉ ds → (w.coordinators d).map (Coordinator.stance gs) = some (k.stance gs))
    (hg : ∀ g, g ∉ gs → v₁.gates g = w.gates g) (hh : v₁.history c = w.history c) : w.Agrees c gs ds v₁ := by
  refine (Agrees.refl w).of_remainder rfl hr hg ?_ hh fun e hed => ?_
  · rw [he, Table.set_of_ne _ _ hdc.symm]
  · rw [he]
    by_cases h : e = d
    · subst h
      rw [Table.set_self, hs hed, Option.map_some]
    · rw [Table.set_of_ne _ _ h]

/-- Beside gates, a coordinator has changed in both worlds. It stands alike unless it is left aside. -/
theorem Agrees.of_set (h : w₁.Agrees c gs ds w₂) (hr₁ : v₁.remainder = w₁.remainder)
    (hr₂ : v₂.remainder = w₂.remainder) (he₁ : v₁.coordinators = w₁.coordinators.set d k₁)
    (he₂ : v₂.coordinators = w₂.coordinators.set d k₂) (hc : d = c → k₂ = k₁)
    (hs : d ∉ ds → k₂.stance gs = k₁.stance gs) (hg : ∀ g, g ∉ gs → v₂.gates g = v₁.gates g)
    (hh : v₂.history c = v₁.history c) : v₁.Agrees c gs ds v₂ := by
  refine h.of_remainder hr₁ hr₂ hg ?_ hh fun e hed => ?_
  · rw [he₁, he₂]
    by_cases hdc : c = d
    · subst hdc
      rw [Table.set_self, Table.set_self, hc rfl]
    · rw [Table.set_of_ne _ _ hdc, Table.set_of_ne _ _ hdc, h.coordinator]
  · rw [he₁, he₂]
    by_cases hd : e = d
    · subst hd
      rw [Table.set_self, Table.set_self, Option.map_some, Option.map_some, hs hed]
    · rw [Table.set_of_ne _ _ hd, Table.set_of_ne _ _ hd, h.stances e hed]

theorem agrees_setCoordinator (hdc : d ≠ c)
    (hs : d ∉ ds → (w.coordinators d).map (Coordinator.stance gs) = some (k.stance gs)) :
    w.Agrees c gs ds (w.setCoordinator d k) := agrees_of_set hdc rfl rfl hs (fun _ _ => rfl) rfl

theorem agrees_setCoordinator_of_eq (hdc : d ≠ c) (hk : w.coordinators d = some k₁)
    (hs : k₂.stance gs = k₁.stance gs) : w.Agrees c gs ds (w.setCoordinator d k₂) :=
  agrees_setCoordinator hdc fun _ => by rw [hk, Option.map_some, hs]

theorem Agrees.setCoordinator (h : w₁.Agrees c gs ds w₂) (d : CoordinatorId) (hc : d = c → k₂ = k₁)
    (hs : d ∉ ds → k₂.stance gs = k₁.stance gs) :
    (w₁.setCoordinator d k₁).Agrees c gs ds (w₂.setCoordinator d k₂) :=
  h.of_set rfl rfl rfl rfl hc hs h.gates h.history

theorem Agrees.setSelf (h : w₁.Agrees c gs ds w₂) (k : Coordinator) :
    (w₁.setCoordinator c k).Agrees c gs ds (w₂.setCoordinator c k) :=
  h.setCoordinator c (fun _ => rfl) fun _ => rfl

theorem busy_congr {l : List GateId} (h : ∀ g ∈ l, w₂.gates g = w₁.gates g) : w₂.busy l = w₁.busy l := by
  unfold busy
  exact List.filterMap_congr fun g hg => by rw [h g hg]

/-- A coordinator that is left aside suspends, and so do its gates. -/
theorem agrees_suspend (hdc : d ≠ c) (hd : d ∈ ds) (hg : ∀ g ∈ k.gates, g ∈ gs) :
    w.Agrees c gs ds (w.suspend d k) := by
  refine agrees_of_set hdc (suspend_remainder w d k) (suspend_coordinators w d k) (fun h => absurd hd h)
    (fun f hf => ?_) ?_
  · rw [suspend_gates, if_neg fun hm => hf (hg f hm)]
  · rw [suspend_history, if_neg hdc]

/-- **A coordinator suspends in both worlds.** -/
theorem Agrees.suspend (h : w₁.Agrees c gs ds w₂) (hs : k₂.stance gs = k₁.stance gs)
    (hc : d = c → k₂ = k₁ ∧ ∀ g ∈ k₁.gates, g ∉ gs) :
    (w₁.suspend d k₁).Agrees c gs ds (w₂.suspend d k₂) := by
  obtain ⟨hn, -, hg⟩ := Coordinator.stance_eq.1 hs
  -- it has none of the gates that are left aside, so as many are busy
  have hbusy (hdc : d = c) : w₂.busy k₂.gates = w₁.busy k₁.gates := by
    obtain ⟨rfl, hgs⟩ := hc hdc
    exact busy_congr fun g hm => h.gates g (hgs g hm)
  refine h.of_set (suspend_remainder _ _ _) (suspend_remainder _ _ _) (suspend_coordinators _ _ _)
    (suspend_coordinators _ _ _) (fun hdc => ?_) (fun _ => Coordinator.stance_suspendedWith hs _ _ _ _)
    (fun f hf => ?_) ?_
  · rw [hbusy hdc, (hc hdc).1, h.date]
  · rw [suspend_gates, suspend_gates, h.gates f hf, hn]
    simp only [hg f hf]
  · rw [suspend_history, suspend_history, h.history]
    by_cases hdc : d = c
    · rw [hbusy hdc, (hc hdc).1]
    · rw [if_neg hdc, if_neg hdc]

/-- A coordinator that is left aside resumes, and opens its gates. -/
theorem agrees_resume (hdc : d ≠ c) (hd : d ∈ ds) (hg : ∀ g ∈ k.gates, g ∈ gs) :
    w.Agrees c gs ds (w.resume d k) := by
  refine agrees_of_set hdc (resume_remainder w d k) (resume_coordinators w d k) (fun h => absurd hd h)
    (fun f hf => ?_) ?_
  · rw [resume_gates, if_neg fun hm => hf (hg f hm)]
  · rw [resume_history, if_neg hdc]

/-- **A coordinator resumes in both worlds.** -/
theorem Agrees.resume (h : w₁.Agrees c gs ds w₂) (hs : k₂.stance gs = k₁.stance gs) (hc : d = c → k₂ = k₁) :
    (w₁.resume d k₁).Agrees c gs ds (w₂.resume d k₂) := by
  obtain ⟨-, -, hg⟩ := Coordinator.stance_eq.1 hs
  refine h.of_set (resume_remainder _ _ _) (resume_remainder _ _ _) (resume_coordinators _ _ _)
    (resume_coordinators _ _ _) (fun hdc => ?_) (fun _ => Coordinator.stance_reopening hs) (fun f hf => ?_) ?_
  · rw [hc hdc]
  · rw [resume_gates, resume_gates, h.gates f hf]
    simp only [hg f hf]
  · rw [resume_history, resume_history, h.history]
    by_cases hdc : d = c
    · rw [hc hdc]
    · rw [if_neg hdc, if_neg hdc]

/-- Another coordinator no longer waits for a gate. -/
theorem agrees_struck (hdc : d ≠ c) (hp : ∀ p, k.pending = some p → k.state ≠ .running) (g : GateId) :
    (w.setCoordinator d k).Agrees c gs ds (w.strike d k g) := by
  have hset : (w.setCoordinator d k).Agrees c gs ds (w.setCoordinator d (k.struck g w.date)) :=
    (Agrees.refl w).setCoordinator d (fun e => absurd e hdc) fun _ => Coordinator.stance_struck hp g w.date
  rcases strike_cases w d k g with ⟨e, -⟩ | ⟨e, hk, -⟩ <;> rw [e]
  · exact hset
  · rw [← hk]
    exact hset.trans (agrees_note (by simp [Occurrence.concerns, hdc]))

/-- Another coordinator no longer waits for a gate, and may have lost gates that are left aside. -/
theorem agrees_strike (hdc : d ≠ c) (hp : ∀ p, k.pending = some p → k.state ≠ .running)
    (hs : d ∉ ds → (w.coordinators d).map (Coordinator.stance gs) = some (k.stance gs)) (g : GateId) :
    w.Agrees c gs ds (w.strike d k g) := (agrees_setCoordinator hdc hs).trans (agrees_struck hdc hp g)

theorem Agrees.complete (h : w₁.Agrees c gs ds w₂) (k : Coordinator) :
    (w₁.complete c k).Agrees c gs ds (w₂.complete c k) := by
  rw [complete_eq, complete_eq, h.date]
  exact (h.setSelf _).note _

theorem Agrees.strike (h : w₁.Agrees c gs ds w₂) (k : Coordinator) (g : GateId) :
    (w₁.strike c k g).Agrees c gs ds (w₂.strike c k g) := by
  unfold World.strike
  split
  · exact h.setSelf k
  · split
    · simp only
      split
      · exact h.complete k
      · exact h.setSelf _
    · exact h.setSelf k

/-- A gate reports to another coordinator. -/
theorem agrees_drained (hdc : d ≠ c) (hk : w.coordinators d = some k) (hks : k.Sound) (n : Nat)
    (g : GateId) : w.Agrees c gs ds (w.drained d k n g) := by
  rcases drained_cases w d k n g with ⟨e, -⟩ | ⟨e, -⟩ <;> rw [e]
  · exact agrees_strike hdc (fun p => hks.closed_of_pending) (fun _ => by rw [hk, Option.map_some]) g
  · exact .refl w

theorem Agrees.drained (h : w₁.Agrees c gs ds w₂) (k : Coordinator) (n : Nat) (g : GateId) :
    (w₁.drained c k n g).Agrees c gs ds (w₂.drained c k n g) := by
  unfold World.drained
  split
  · exact h
  · split
    · exact h.strike k g
    · exact h

theorem addGate_remainder (w : World) (c : CoordinatorId) (k : Coordinator) (g : GateId) (x : Gate) :
    (w.addGate c k g x).remainder = w.remainder := by
  unfold World.addGate
  split
  · rfl
  · split
    · simp only
      split
      · rfl
      · split <;> rfl
    · rfl

/-- A gate that is left aside is registered with another coordinator. -/
theorem agrees_addGate (hdc : d ≠ c) (hk : w.coordinators d = some k) (hks : k.Sound) (hg : g ∈ gs) :
    w.Agrees c gs ds (w.addGate d k g x) := by
  by_cases hm : g ∈ k.gates
  · rw [addGate_of_mem hm]
    exact agrees_alert _
  refine agrees_of_set hdc (addGate_remainder w d k g x) (addGate_coordinators hm hks) (fun _ => ?_)
    (fun f hf => ?_) addGate_history
  · rw [hk, Option.map_some, Coordinator.stance_joined_of_mem hg]
  · rw [addGate_gates hm]
    split
    · rfl
    · exact Table.set_of_ne _ _ fun hfg => hf (hfg ▸ hg)

/-- **A gate is registered in both worlds.** -/
theorem Agrees.addGate (h : w₁.Agrees c gs ds w₂) (hs : k₂.stance gs = k₁.stance gs) (hc : d = c → k₂ = k₁)
    (hk₁ : k₁.Sound) (hk₂ : k₂.Sound) (hg : g ∉ gs) (x : Gate) :
    (w₁.addGate d k₁ g x).Agrees c gs ds (w₂.addGate d k₂ g x) := by
  obtain ⟨hn, hr, hgs⟩ := Coordinator.stance_eq.1 hs
  by_cases hm : g ∈ k₁.gates
  · rw [addGate_of_mem hm, addGate_of_mem ((hgs g hg).2 hm)]
    exact h.note _
  have hm₂ : g ∉ k₂.gates := fun hm₂ => hm ((hgs g hg).1 hm₂)
  refine h.of_set (addGate_remainder _ _ _ _ _) (addGate_remainder _ _ _ _ _) (addGate_coordinators hm hk₁)
    (addGate_coordinators hm₂ hk₂) (fun hdc => ?_) (fun _ => Coordinator.stance_joined hs _ _ _ _)
    (fun f hf => ?_) ?_
  · rw [hc hdc]
  · rw [addGate_gates hm, addGate_gates hm₂, hn]
    simp only [hr]
    split
    · exact h.gates f hf
    · exact (h.setGate g (x.beginDrain (.report d k₁.generation))).gates f hf
  · rw [addGate_history, addGate_history, h.history]

/-- Another coordinator no longer has a gate. It is left aside, or the gate is. -/
theorem agrees_removeGate (hdc : d ≠ c) (hk : w.coordinators d = some k) (hks : k.Sound)
    (hg : d ∈ ds ∨ g ∈ gs) : w.Agrees c gs ds (w.removeGate d k g) := by
  let l : Coordinator := { k with gates := k.gates.filter (· ≠ g) }
  refine agrees_strike (k := l) hdc (fun p hp => hks.closed_of_pending hp) (fun hd => ?_) g
  have hs : k.stance gs = l.stance gs := by
    refine Coordinator.stance_eq.2 ⟨rfl, Iff.rfl, fun f hf => ?_⟩
    have hfg : f ≠ g := fun e => hf (e ▸ hg.resolve_left hd)
    simp [l, hfg]
  rw [hk, Option.map_some, hs]

theorem agrees_dropCoordinator (hdc : d ≠ c) : w.Agrees c gs ds (w.dropCoordinator d) := by
  unfold World.dropCoordinator
  split
  · exact .refl w
  · rename_i k hk
    exact agrees_setCoordinator_of_eq hdc hk rfl

theorem Agrees.dropSelf (h : w₁.Agrees c gs ds w₂) :
    (w₁.dropCoordinator c).Agrees c gs ds (w₂.dropCoordinator c) := by
  unfold World.dropCoordinator
  rw [h.coordinator]
  split
  · exact h
  · exact h.setSelf _

/-! ## Services, drains and requests -/

theorem setService_services (w : World) (s x : ServiceId) (y : Service) :
    (w.setService s y).services x = if x = s then some y else w.services x := rfl

/-- A service over another coordinator has changed, and is still over that one. -/
theorem agrees_setService {s : ServiceId} {y y' : Service} (hy : w.services s = some y)
    (hdc : y.coordinator ≠ c) (he : y'.coordinator = y.coordinator) :
    w.Agrees c gs ds (w.setService s y') := by
  refine ⟨fun _ _ => rfl, rfl, rfl, fun _ _ => rfl, fun e x _ => ?_, fun x z hz => ?_, fun _ _ _ => Iff.rfl,
    fun _ _ _ => Iff.rfl, rfl, rfl⟩
  · rw [over_setService]
    split
    · rename_i hx
      rw [hx, he, over_iff]
      simp [hy]
    · rfl
  · rw [setService_services]
    split
    · rename_i hx
      rw [hx, hy]
      refine iff_of_false (fun h => hdc ?_) fun h => hdc ?_
      · rw [← he, Option.some.inj h, hz]
      · rw [Option.some.inj h, hz]
    · rfl

/-- A service is made over a coordinator that is left aside. -/
theorem agrees_newService {s : ServiceId} {y : Service} (hs : w.services s = none) (hdc : y.coordinator ≠ c)
    (hd : y.coordinator ∈ ds) : w.Agrees c gs ds (w.setService s y) := by
  refine ⟨fun _ _ => rfl, rfl, rfl, fun _ _ => rfl, fun e x he => ?_, fun x z hz => ?_,
    fun _ _ _ => Iff.rfl, fun _ _ _ => Iff.rfl, rfl, rfl⟩
  · rw [over_setService]
    split
    · rename_i hx
      have hnone : ¬ w.Over e s := by
        intro ho
        obtain ⟨z, hz, -⟩ := over_iff.1 ho
        cases hs.symm.trans hz
      rw [hx]
      exact iff_of_false (fun h => he (h ▸ hd)) hnone
    · rfl
  · rw [setService_services]
    split
    · rename_i hx
      rw [hx, hs]
      exact iff_of_false (fun h => hdc (Option.some.inj h ▸ hz)) (Option.some_ne_none z).symm
    · rfl

/-- A service is made or changes in both worlds. If it comes to be over the coordinator, no drain has waited
for it. -/
theorem Agrees.setService {s : ServiceId} {y : Service} (h : w₁.Agrees c gs ds w₂)
    (hy : y.coordinator = c → w₁.Over c s ∨
      ∀ e z, w₁.drains e = some z ∨ w₂.drains e = some z → z.service ≠ s) :
    (w₁.setService s y).Agrees c gs ds (w₂.setService s y) := by
  refine ⟨h.gates, h.coordinator, h.history, h.stances, fun e x he => ?_, fun x z hz => ?_, fun e z hz => ?_,
    h.waiting, h.clock, h.date⟩
  · rw [over_setService, over_setService]
    split
    · rfl
    · exact h.serves e x he
  · rw [setService_services, setService_services]
    split
    · rfl
    · exact h.services x z hz
  · rw [over_setService] at hz
    split at hz
    · rename_i hs
      rcases hy hz with ho | hnew
      · exact h.drains e z (hs ▸ ho)
      · exact iff_of_false (fun hd => hnew e z (.inr hd) hs) fun hd => hnew e z (.inl hd) hs
    · exact h.drains e z hz

/-- Only drains have changed, and none that waits for the coordinator. -/
theorem agrees_drains {t : Table DrainId Drain}
    (ht : ∀ d y, w.Over c y.service → (t d = some y ↔ w.drains d = some y)) :
    w.Agrees c gs ds { w with drains := t } :=
  ⟨fun _ _ => rfl, rfl, rfl, fun _ _ => rfl, fun _ _ _ => Iff.rfl, fun _ _ _ => Iff.rfl, ht,
    fun _ _ _ => Iff.rfl, rfl, rfl⟩

theorem agrees_eraseDrain {e : DrainId} (he : ¬ w.Awaits c e) :
    w.Agrees c gs ds { w with drains := w.drains.erase e } := by
  refine agrees_drains fun d y hy => ?_
  by_cases hd : d = e
  · subst hd
    rw [Table.erase_self]
    exact iff_of_false (Option.some_ne_none y).symm fun h => he ⟨y, h, hy⟩
  · rw [Table.erase_of_ne _ hd]

theorem agrees_setDrain {e : DrainId} {z : Drain} (he : ¬ w.Awaits c e) (hz : ¬ w.Over c z.service) :
    w.Agrees c gs ds { w with drains := w.drains.set e z } := by
  refine agrees_drains fun d y hy => ?_
  by_cases hd : d = e
  · subst hd
    rw [Table.set_self]
    exact iff_of_false (fun h => hz (Option.some.inj h ▸ hy)) fun h => he ⟨y, h, hy⟩
  · rw [Table.set_of_ne _ _ hd]

/-- Drains change in both worlds. -/
theorem Agrees.withDrains {t₁ t₂ : Table DrainId Drain} (h : w₁.Agrees c gs ds w₂)
    (ht : ∀ d y, w₁.Over c y.service → (t₂ d = some y ↔ t₁ d = some y)) :
    Agrees c gs ds { w₁ with drains := t₁ } { w₂ with drains := t₂ } :=
  ⟨h.gates, h.coordinator, h.history, h.stances, h.serves, h.services, ht, h.waiting, h.clock, h.date⟩

theorem Agrees.eraseDrain (h : w₁.Agrees c gs ds w₂) (e : DrainId) :
    Agrees c gs ds { w₁ with drains := w₁.drains.erase e } { w₂ with drains := w₂.drains.erase e } := by
  refine h.withDrains fun d y hy => ?_
  unfold Table.erase
  split
  · rfl
  · exact h.drains d y hy

theorem Agrees.setDrain (h : w₁.Agrees c gs ds w₂) (e : DrainId) (z : Drain) :
    Agrees c gs ds { w₁ with drains := w₁.drains.set e z } { w₂ with drains := w₂.drains.set e z } := by
  refine h.withDrains fun d y hy => ?_
  unfold Table.set
  split
  · rfl
  · exact h.drains d y hy

/-- A service lets go of another coordinator. -/
theorem agrees_dropService {s : ServiceId} (hs : ¬ w.Over c s) : w.Agrees c gs ds (w.dropService s) := by
  unfold World.dropService
  split
  · exact .refl w
  · rename_i y hy
    have hyc : y.coordinator ≠ c := fun e => hs (over_iff.2 ⟨y, hy, e⟩)
    have hset : w.Agrees c gs ds (w.setService s { y with handles := y.handles - 1 }) :=
      agrees_setService hy hyc rfl
    simp only
    split
    · exact hset.trans (agrees_dropCoordinator hyc)
    · exact hset

theorem Agrees.dropService (h : w₁.Agrees c gs ds w₂) {s : ServiceId} (hs : w₁.Over c s) :
    (w₁.dropService s).Agrees c gs ds (w₂.dropService s) := by
  obtain ⟨y, hy, rfl⟩ := over_iff.1 hs
  have hset := h.setService (y := { y with handles := y.handles - 1 }) fun _ => .inl hs
  unfold World.dropService
  rw [hy, (h.services s y rfl).2 hy]
  simp only
  split
  · exact hset.dropSelf
  · exact hset

theorem agrees_poll (k : Coordinator) (e : Drain) : w.Agrees c gs ds (w.poll k e).1 := by
  unfold World.poll
  split
  · exact .refl w
  · split
    · -- what is still busy goes to the log
      simp only [expire]
      suffices h : ∀ (l : List (String × Int)) (v : World),
          v.Agrees c gs ds (l.foldl (fun w x => w.alert (.stillBusy x.1 x.2)) v) from h _ w
      intro l
      induction l with
      | nil => exact .refl
      | cons z l ih => exact fun v => (agrees_alert _).trans (ih _)
    · exact .refl w

/-- **A drain finds the same in both worlds.** -/
theorem Agrees.poll (h : w₁.Agrees c gs ds w₂) (k : Coordinator) (e : Drain) :
    ∃ v₁ v₂ out, w₁.poll k e = (v₁, out) ∧ w₂.poll k e = (v₂, out) ∧ v₁.Agrees c gs ds v₂ ∧
      ∀ x, v₁.Over c x ↔ w₁.Over c x := by
  have h₁ : w₁.Agrees c gs ds (w₁.poll k e).1 := agrees_poll k e
  have h₂ : w₂.Agrees c gs ds (w₂.poll k e).1 := agrees_poll k e
  have ho : (w₂.poll k e).2 = (w₁.poll k e).2 := by
    unfold World.poll
    rw [h.clock]
    split
    · rfl
    · split <;> rfl
  exact ⟨_, _, _, rfl, Prod.ext rfl ho, h.both h₁ h₂, h₁.over_self⟩

theorem agrees_waiting {t : Table RequestId Admission}
    (ht : ∀ r a, a.permit.gate ∉ gs → (t r = some a ↔ w.waiting r = some a)) :
    w.Agrees c gs ds { w with waiting := t } :=
  ⟨fun _ _ => rfl, rfl, rfl, fun _ _ => rfl, fun _ _ _ => Iff.rfl, fun _ _ _ => Iff.rfl, fun _ _ _ => Iff.rfl,
    ht, rfl, rfl⟩

/-- The requests that wait change in both worlds. -/
theorem Agrees.withWaiting {t₁ t₂ : Table RequestId Admission} (h : w₁.Agrees c gs ds w₂)
    (ht : ∀ r a, a.permit.gate ∉ gs → (t₂ r = some a ↔ t₁ r = some a)) :
    Agrees c gs ds { w₁ with waiting := t₁ } { w₂ with waiting := t₂ } :=
  ⟨h.gates, h.coordinator, h.history, h.stances, h.serves, h.services, h.drains, ht, h.clock, h.date⟩

theorem Agrees.advance (h : w₁.Agrees c gs ds w₂) (nanos : Nat) :
    Agrees c gs ds { w₁ with clock := w₁.clock + nanos } { w₂ with clock := w₂.clock + nanos } :=
  ⟨h.gates, h.coordinator, h.history, h.stances, h.serves, h.services, h.drains, h.waiting,
    congrArg (· + nanos) h.clock, h.date⟩

end World

end Sluice
