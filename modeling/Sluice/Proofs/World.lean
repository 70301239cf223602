import Sluice.Proofs.Coordinator
import Sluice.Proofs.Gate
import Sluice.World

/-!
# What the operations on the world do

For each operation on a coordinator and its gates: the table of coordinators after it, the gates after
it, and what it adds to the history of a coordinator.

* `World.busy`: the gates of a list on which work is outstanding, with their names.
* `World.history`: what the journal says of one coordinator, newest first.
* `suspend_coordinators`, `suspend_gates`, `suspend_history` and the like: the operations.
-/

namespace Sluice

/-- Whether something happened to a coordinator or its listeners. -/
def Occurrence.concerns (c : CoordinatorId) : Occurrence → Bool
  | .entered d _ _ | .offered d _ _ _ | .unsubscribed d _ | .called d _ _ => d = c
  | _ => false

namespace World

/-- What has happened to a coordinator and its listeners, newest first. -/
def history (w : World) (c : CoordinatorId) : List Occurrence := w.journal.filter (·.concerns c)

/-- The gates among these on which work is outstanding, with their names. -/
def busy (w : World) (gs : List GateId) : List (GateId × String) :=
  gs.filterMap fun g => (w.gates g).bind fun x => if x.outstanding = 0 then none else some (g, x.name)

section Fields

variable (w : World) (o : Occurrence) (a : Alert) (g : GateId) (x : Gate) (c d : CoordinatorId)
  (k : Coordinator)

@[simp] theorem note_gates : (w.note o).gates = w.gates := rfl
@[simp] theorem note_coordinators : (w.note o).coordinators = w.coordinators := rfl
@[simp] theorem note_date : (w.note o).date = w.date := rfl
@[simp] theorem alert_gates : (w.alert a).gates = w.gates := rfl
@[simp] theorem alert_coordinators : (w.alert a).coordinators = w.coordinators := rfl
@[simp] theorem setGate_gates : (w.setGate g x).gates = w.gates.set g x := rfl
@[simp] theorem setGate_coordinators : (w.setGate g x).coordinators = w.coordinators := rfl
@[simp] theorem setGate_history : (w.setGate g x).history c = w.history c := rfl
@[simp] theorem setCoordinator_gates : (w.setCoordinator c k).gates = w.gates := rfl
@[simp] theorem setCoordinator_coordinators :
    (w.setCoordinator c k).coordinators = w.coordinators.set c k := rfl
@[simp] theorem setCoordinator_history : (w.setCoordinator c k).history d = w.history d := rfl
@[simp] theorem setCoordinator_date : (w.setCoordinator c k).date = w.date := rfl

theorem history_note :
    (w.note o).history c = if o.concerns c = true then o :: w.history c else w.history c := by
  unfold history note; rw [List.filter_cons]

@[simp] theorem alert_history : (w.alert a).history c = w.history c := by
  rw [alert, history_note]; rfl

end Fields

variable {w : World} {c d : CoordinatorId} {k : Coordinator} {g : GateId} {x : Gate}

theorem setGate_eq_self (hx : w.gates g = some x) : w.setGate g x = w := by
  unfold setGate; rw [Table.set_eq_self hx]

/-- Work that is turned away leaves no trace. -/
theorem turnAway_eq (hx : w.gates g = some x) (hs : x.Sound) : w.turnAway g x = (w, none) := by
  unfold turnAway
  simp only [hs.turnAway_eq, setGate_eq_self hx]

/-! ## Closing and opening several gates -/

theorem mem_busy {gs : List GateId} {n : String} :
    (g, n) ∈ w.busy gs ↔ g ∈ gs ∧ ∃ x, w.gates g = some x ∧ x.outstanding ≠ 0 ∧ x.name = n := by
  simp only [busy, List.mem_filterMap, Option.bind_eq_some_iff]
  constructor
  · rintro ⟨h, hh, x, hx, hb⟩
    split at hb
    · cases hb
    · rename_i h0
      cases hb
      exact ⟨hh, x, hx, h0, rfl⟩
  · rintro ⟨hg, x, hx, h0, rfl⟩
    exact ⟨g, hg, x, hx, by rw [if_neg h0]⟩

theorem nodup_busy {gs : List GateId} (h : gs.Nodup) : ((w.busy gs).map Prod.fst).Nodup := by
  induction gs with
  | nil => exact List.nodup_nil
  | cons g gs ih =>
    obtain ⟨hg, hgs⟩ := List.nodup_cons.1 h
    unfold busy
    rw [List.filterMap_cons]
    split
    · exact ih hgs
    · -- the first is busy, and is not listed again
      rename_i y hy
      obtain ⟨x, hx, hb⟩ := Option.bind_eq_some_iff.1 hy
      split at hb
      · cases hb
      cases hb
      refine List.nodup_cons.2 ⟨fun hm => ?_, ih hgs⟩
      obtain ⟨⟨g', n⟩, hm, he⟩ := List.mem_map.1 hm
      exact hg ((show g' = g from he) ▸ (mem_busy.1 hm).1)

/-- To close a gate changes neither which gates are busy nor their names. -/
theorem busy_beginDrain (w : World) {g : GateId} {x : Gate} (hx : w.gates g = some x)
    (cb : DrainCallback) (gs : List GateId) : (w.beginDrain g x cb).1.busy gs = w.busy gs := by
  unfold busy
  congr 1
  funext h
  by_cases hh : h = g
  · subst hh
    rw [hx]
    simp [beginDrain]
  · simp [beginDrain, Table.set_of_ne _ _ hh]

theorem closeAll_busy (cb : DrainCallback) (gs : List GateId) (w : World) :
    (w.closeAll cb gs).2 = w.busy gs := by
  induction gs generalizing w with
  | nil => rfl
  | cons g gs ih =>
    unfold closeAll
    split
    · rename_i hx
      rw [ih]
      unfold busy
      rw [List.filterMap_cons, hx]
      rfl
    · -- the other gates are read after the first is closed
      rename_i x hx
      simp only [ih, busy_beginDrain w hx]
      unfold busy
      rw [List.filterMap_cons, hx]
      simp only [beginDrain, Option.bind_some]
      by_cases h0 : x.outstanding = 0 <;> simp [h0]

/-- To close gates changes nothing but gates and the journal. -/
theorem closeAll_eq (cb : DrainCallback) (gs : List GateId) (w : World) :
    (w.closeAll cb gs).1 =
      { w with gates := (w.closeAll cb gs).1.gates, journal := (w.closeAll cb gs).1.journal } := by
  induction gs generalizing w with
  | nil => rfl
  | cons g gs ih =>
    unfold closeAll
    split
    · exact ih w
    · simp only
      rw [ih]
      rfl

theorem closeAll_gates (cb : DrainCallback) (gs : List GateId) (w : World) (g : GateId) :
    (w.closeAll cb gs).1.gates g =
      if g ∈ gs then (w.gates g).map (·.beginDrain cb) else w.gates g := by
  induction gs generalizing w with
  | nil => rfl
  | cons h gs ih =>
    unfold closeAll
    split
    · rename_i hx
      rw [ih]
      by_cases hgh : g = h
      · subst hgh
        simp [hx]
      · simp [hgh]
    · rename_i x hx
      simp only [ih]
      by_cases hgh : g = h
      · -- the gate may be listed again, and is then closed twice
        subst hgh
        simp [beginDrain, hx, Gate.beginDrain_beginDrain]
      · simp [beginDrain, Table.set_of_ne _ _ hgh, hgh]

theorem closeAll_history (cb : DrainCallback) (gs : List GateId) (w : World) :
    (w.closeAll cb gs).1.history c = w.history c := by
  induction gs generalizing w with
  | nil => rfl
  | cons g gs ih =>
    unfold closeAll
    split
    · exact ih w
    · simp only [ih, beginDrain, history_note]
      rfl

theorem openAll_eq (gs : List GateId) (w : World) :
    w.openAll gs = { w with gates := (w.openAll gs).gates, journal := (w.openAll gs).journal } := by
  induction gs generalizing w with
  | nil => rfl
  | cons g gs ih =>
    unfold openAll
    split
    · exact ih w
    · rw [ih]; rfl

theorem openAll_gates (gs : List GateId) (w : World) (g : GateId) :
    (w.openAll gs).gates g = if g ∈ gs then (w.gates g).map Gate.reopen else w.gates g := by
  induction gs generalizing w with
  | nil => rfl
  | cons h gs ih =>
    unfold openAll
    split
    · rename_i hx
      rw [ih]
      by_cases hgh : g = h
      · subst hgh
        simp [hx]
      · simp [hgh]
    · rename_i x hx
      rw [ih]
      by_cases hgh : g = h
      · subst hgh
        simp [reopen, hx, Gate.reopen]
      · simp [reopen, Table.set_of_ne _ _ hgh, hgh]

theorem openAll_history (gs : List GateId) (w : World) : (w.openAll gs).history c = w.history c := by
  induction gs generalizing w with
  | nil => rfl
  | cons g gs ih =>
    unfold openAll
    split
    · exact ih w
    · simp only [ih, reopen, history_note]
      rfl

/-! ## Transitions -/

theorem complete_eq (w : World) (c : CoordinatorId) (k : Coordinator) :
    w.complete c k =
      (w.setCoordinator c (k.completed w.date)).note (.entered c .suspended k.listeners) := by
  unfold complete enter
  rw [Coordinator.notify_listeners]
  rfl

theorem suspend_eq (w : World) (c : CoordinatorId) (k : Coordinator) :
    w.suspend c k =
      let w' := ((w.setCoordinator c k.closing).note (.entered c .suspending k.listeners)).closeAll
        (.report c (k.generation + 1)) k.gates
      if w.busy k.gates = [] then w'.1.complete c k.closing
      else
        w'.1.setCoordinator c
          { k.closing with pending := some ⟨k.generation + 1, w.busy k.gates⟩ } := by
  unfold suspend enter
  simp only [Coordinator.notify_listeners, Coordinator.notify_generation, Coordinator.notify_gates,
    closeAll_busy, List.isEmpty_iff, Coordinator.closing]
  simp only [Coordinator.setState, Coordinator.notify_generation]
  rfl

theorem suspend_coordinators (w : World) (c : CoordinatorId) (k : Coordinator) :
    (w.suspend c k).coordinators = w.coordinators.set c (k.suspendedWith (w.busy k.gates) w.date) := by
  rw [suspend_eq]
  unfold Coordinator.suspendedWith
  split
  · simp only [complete_eq, note_coordinators, setCoordinator_coordinators]
    rw [closeAll_eq]
    simp
  · simp only [setCoordinator_coordinators]
    rw [closeAll_eq]
    simp

theorem suspend_gates (w : World) (c : CoordinatorId) (k : Coordinator) (g : GateId) :
    (w.suspend c k).gates g =
      if g ∈ k.gates then (w.gates g).map (·.beginDrain (.report c (k.generation + 1)))
      else w.gates g := by
  rw [suspend_eq]
  split
  · rw [complete_eq]
    simp only [note_gates, setCoordinator_gates, closeAll_gates]
  · simp only [note_gates, setCoordinator_gates, closeAll_gates]

theorem suspend_history (w : World) (c d : CoordinatorId) (k : Coordinator) :
    (w.suspend c k).history d =
      if c = d then
        (if w.busy k.gates = [] then [Occurrence.entered c .suspended k.listeners] else []) ++
          .entered c .suspending k.listeners :: w.history d
      else w.history d := by
  have hl : k.closing.listeners = k.listeners := by
    unfold Coordinator.closing
    simp [Coordinator.setState]
  rw [suspend_eq]
  by_cases hcd : c = d <;> by_cases hb : w.busy k.gates = [] <;>
    simp [hb, complete_eq, history_note, closeAll_history, Occurrence.concerns, hcd, hl]

theorem resume_coordinators (w : World) (c : CoordinatorId) (k : Coordinator) :
    (w.resume c k).coordinators = w.coordinators.set c k.reopening := by
  unfold resume
  rw [openAll_eq]
  rfl

theorem resume_gates (w : World) (c : CoordinatorId) (k : Coordinator) (g : GateId) :
    (w.resume c k).gates g = if g ∈ k.gates then (w.gates g).map Gate.reopen else w.gates g := by
  unfold resume
  rw [openAll_gates]
  rfl

theorem resume_history (w : World) (c d : CoordinatorId) (k : Coordinator) :
    (w.resume c k).history d =
      if c = d then .entered c .running k.listeners :: w.history d else w.history d := by
  unfold resume enter
  rw [openAll_history, history_note]
  simp [Occurrence.concerns]

/-- **A gate is struck from the pending set**: nothing more happens, or it was the last and the suspend
is complete. -/
theorem strike_cases (w : World) (c : CoordinatorId) (k : Coordinator) (g : GateId) :
    (w.strike c k g = w.setCoordinator c (k.struck g w.date) ∧
        (k.struck g w.date).state = k.state ∧
        ∃ q, k.struck g w.date = { k with pending := q }) ∨
      (w.strike c k g =
          (w.setCoordinator c (k.completed w.date)).note (.entered c .suspended k.listeners) ∧
        k.struck g w.date = k.completed w.date ∧
        ∃ p, k.pending = some p ∧ p.waitsFor g = true) := by
  unfold strike
  cases hp : k.pending with
  | none =>
    -- nothing is waited for
    rw [Coordinator.struck_eq_self _ _ _ fun p h => by rw [hp] at h; cases h]
    exact .inl ⟨rfl, rfl, none, by rw [← hp]⟩
  | some p =>
    by_cases hw : p.waitsFor g = true
    · rw [Coordinator.struck_of_waits _ _ _ hp hw]
      simp only [hw, if_true, List.isEmpty_iff]
      split
      · exact .inr ⟨complete_eq w c k, rfl, p, rfl, hw⟩
      · exact .inl ⟨rfl, rfl, _, rfl⟩
    · rw [Coordinator.struck_eq_self _ _ _ fun q h => by rw [hp] at h; cases h; exact hw]
      refine .inl ⟨by simp [hw], rfl, some p, by rw [← hp]⟩

theorem strike_coordinators (w : World) (c : CoordinatorId) (k : Coordinator) (g : GateId) :
    (w.strike c k g).coordinators = w.coordinators.set c (k.struck g w.date) := by
  rcases strike_cases w c k g with ⟨h, -⟩ | ⟨h, hk, -⟩
  · rw [h]; rfl
  · rw [h, hk]; rfl

theorem strike_gates (w : World) (c : CoordinatorId) (k : Coordinator) (g : GateId) :
    (w.strike c k g).gates = w.gates := by
  rcases strike_cases w c k g with ⟨h, -⟩ | ⟨h, -⟩ <;> rw [h] <;> rfl

/-- A report counts only for a pending set of its generation. -/
theorem drained_cases (w : World) (c : CoordinatorId) (k : Coordinator) (n : Nat) (g : GateId) :
    (w.drained c k n g = w.strike c k g ∧ ∃ p, k.pending = some p ∧ p.generation = n) ∨
      (w.drained c k n g = w ∧ ∀ p, k.pending = some p → p.generation ≠ n) := by
  unfold drained
  split
  · rename_i hp
    exact .inr ⟨rfl, fun p h => by rw [hp] at h; cases h⟩
  rename_i p hp
  split
  · rename_i hn
    exact .inl ⟨rfl, p, hp, hn⟩
  · rename_i hn
    exact .inr ⟨rfl, fun q h => by rw [hp] at h; cases h; exact hn⟩

/-! ## Registration -/

theorem addGate_of_mem (hg : g ∈ k.gates) : w.addGate c k g x = w.alert (.registeredTwice x.name) := by
  unfold addGate
  rw [if_pos hg]

theorem addGate_coordinators (hg : g ∉ k.gates) (hk : k.Sound) :
    (w.addGate c k g x).coordinators =
      w.coordinators.set c (k.joined g x.name (decide (x.outstanding ≠ 0))) := by
  unfold addGate
  rw [if_neg hg]
  split
  · simp only [beginDrain]
    split
    · rename_i p hp
      by_cases h0 : x.outstanding = 0 <;> simp [Coordinator.joined, hp, h0]
    · rename_i hp
      by_cases h0 : x.outstanding = 0 <;> simp [Coordinator.joined, hp, h0]
  · rename_i ha
    have hr : k.state = .running := by simpa [SuspendState.isActive] using ha
    simp [Coordinator.joined, hk.pending_of_running hr]

theorem addGate_gates (hg : g ∉ k.gates) :
    (w.addGate c k g x).gates =
      if k.state = .running then w.gates
      else w.gates.set g (x.beginDrain (.report c k.generation)) := by
  unfold addGate
  rw [if_neg hg]
  by_cases hr : k.state = .running
  · simp [SuspendState.isActive, hr]
  · simp only [SuspendState.isActive, ne_eq, hr, not_false_eq_true, decide_true, if_true, if_false,
      beginDrain]
    split
    · rfl
    · by_cases h0 : x.outstanding = 0 <;> simp [h0]

/-- The gate stays as it is, or is closed. -/
theorem addGate_gates_eq (hx : w.gates g = some x) (hg : g ∉ k.gates) :
    ∃ y, (w.addGate c k g x).gates = w.gates.set g y ∧
      (y = x ∨ y = x.beginDrain (.report c k.generation)) := by
  rw [addGate_gates hg]
  split
  · exact ⟨x, (Table.set_eq_self hx).symm, .inl rfl⟩
  · exact ⟨_, rfl, .inr rfl⟩

theorem addGate_history : (w.addGate c k g x).history d = w.history d := by
  unfold addGate
  split
  · simp
  split
  · simp only [beginDrain]
    split
    · simp [history_note, Occurrence.concerns]
    · by_cases h0 : x.outstanding = 0 <;> simp [h0, history_note, Occurrence.concerns]
  · rfl

end World

end Sluice
