import Mathlib.Data.Finset.Card
import Sluice.Proofs.Objects

/-!
# What becomes of a pool's objects and slots

A slot is for an object that is out or idle, or for one that a caller is about to have or to have no
more. So the slots are counted by what is out, what is idle, and the callers of the last kind.

* `Slots`: what the slots are for. `Covered`: every other slot is for an object that is out or idle. `Conserved`:
  this, and every object in its place.
* `Law`: what is kept by each of the changes that moves are made of. `Law.step`: **every move keeps it** if what is
  given back is out. `covered_law`, `conserved_law`: the two laws.
* `Conserved.step`: **every fair move conserves the objects and the slots**.
* `conservation_exact`: where the objects are and what the counters say after any fair run.
-/

namespace Sluice.Pool

/-- Whether a caller has a slot for which there is no object yet, or no longer. -/
def Phase.hasSlot {α : Type} : Phase α → Bool
  | .creating | .destroying _ .release | .destroying _ .stop => true
  | _ => false

namespace Machine

variable {α : Type} {m m' : Machine α} {loans : List (CallerId × α)} {move : Move α} {c c' : CallerId}
  {p : Phase α} {obj : α} {out : List α} {n : Int}

/-! ## Slots -/

/-- Whether a caller has a slot without an object. -/
def hasSlot (m : Machine α) (c : CallerId) : Bool := (m.callers c).any Phase.hasSlot

/-- The slots are those of the callers that have one without an object, and so many others. -/
def Slots (m : Machine α) (n : Int) : Prop :=
  ∃ busy : Finset CallerId, (∀ c, c ∈ busy ↔ m.hasSlot c = true) ∧
    (m.pool.instances : Int) = n + busy.card

@[simp] theorem hasSlot_put_self (m : Machine α) (c : CallerId) (p : Phase α) :
    (m.put c p).hasSlot c = p.hasSlot := by
  unfold hasSlot
  rw [put_self]
  rfl

theorem hasSlot_put_of_ne (h : c' ≠ c) : (m.put c p).hasSlot c' = m.hasSlot c' := by
  unfold hasSlot
  rw [put_of_ne h]

@[simp] theorem hasSlot_wakeAll (m : Machine α) (c : CallerId) : m.wakeAll.hasSlot c = m.hasSlot c := by
  have hw : m.wakeAll.callers c = (m.callers c).map wake := rfl
  unfold hasSlot
  rw [hw]
  cases m.callers c with
  | none => rfl
  | some p => cases p <;> rfl

@[simp] theorem hasSlot_freeSlot (m : Machine α) (c : CallerId) :
    m.freeSlot.hasSlot c = m.hasSlot c := by
  unfold freeSlot
  simp only
  split
  · rfl
  · split
    · exact hasSlot_wakeAll _ c
    · rfl

theorem hasSlot_of_free (h : m.isFree c = true) : m.hasSlot c = false := by
  unfold isFree at h
  unfold hasSlot
  split at h
  · rename_i hc
    rw [hc]
    rfl
  · rename_i r hc
    rw [hc]
    rfl
  · cases h

/-- **A caller gets a slot without an object or gives it up**, and the others keep theirs. -/
theorem Slots.put (h : m.Slots n) (c : CallerId) (p : Phase α) :
    (m.put c p).Slots (n + (m.hasSlot c).toNat - p.hasSlot.toNat) := by
  obtain ⟨busy, hb, hn⟩ := h
  have hinst : ((m.put c p).pool.instances : Int) = n + busy.card := hn
  cases hp : p.hasSlot with
  | true =>
    refine ⟨insert c busy, fun d => ?_, ?_⟩
    · by_cases hd : d = c
      · subst hd
        simp [hp]
      · rw [hasSlot_put_of_ne hd, ← hb d]
        simp [hd]
    · rw [hinst]
      cases hc : m.hasSlot c with
      | true =>
        have hm : c ∈ busy := (hb c).2 hc
        simp [Finset.insert_eq_of_mem hm]
      | false =>
        have hm : c ∉ busy := by
          rw [hb c, hc]
          decide
        rw [Finset.card_insert_of_notMem hm]
        simp only [Bool.toNat_true, Bool.toNat_false]
        omega
  | false =>
    refine ⟨busy.erase c, fun d => ?_, ?_⟩
    · by_cases hd : d = c
      · subst hd
        simp [hp]
      · rw [hasSlot_put_of_ne hd, ← hb d]
        simp [hd]
    · rw [hinst]
      cases hc : m.hasSlot c with
      | true =>
        have hm : c ∈ busy := (hb c).2 hc
        have hcard := Finset.card_erase_add_one hm
        simp only [Bool.toNat_true, Bool.toNat_false]
        omega
      | false =>
        have hm : c ∉ busy := by
          rw [hb c, hc]
          decide
        simp [Finset.erase_eq_of_notMem hm]

/-- Where somebody has a slot there is one to give back. -/
theorem Slots.pos (h : m.Slots n) (hn : 0 ≤ n) (hc : m.hasSlot c = true) : 0 < m.pool.instances := by
  obtain ⟨busy, hb, hi⟩ := h
  have hpos : 0 < busy.card := Finset.card_pos.2 ⟨c, (hb c).2 hc⟩
  omega

theorem freeSlot_instances (h : 0 < m.pool.instances) :
    (m.freeSlot.pool.instances : Int) = m.pool.instances + -1 := by
  have hi : m.freeSlot.pool.instances = m.pool.instances - 1 := by
    unfold freeSlot
    simp only
    rw [if_neg (by omega)]
    split <;> rfl
  omega

/-- Some slots have come or gone, and a caller goes into another phase. -/
theorem Slots.become {v : Machine α} {j k : Int} (h : m.Slots n)
    (hv : ∀ d, v.hasSlot d = m.hasSlot d) (hi : (v.pool.instances : Int) = m.pool.instances + j)
    (hk : k + p.hasSlot.toNat = n + j + (m.hasSlot c).toNat) : (v.put c p).Slots k := by
  have hvj : v.Slots (n + j) := by
    obtain ⟨busy, hb, hn⟩ := h
    refine ⟨busy, fun d => ?_, by omega⟩
    rw [hv d]
    exact hb d
  have hput := hvj.put c p
  rw [hv c] at hput
  have hn : n + j + (m.hasSlot c).toNat - p.hasSlot.toNat = k := by omega
  rwa [hn] at hput

/-- Between the operations no slot is without an object. -/
theorem Slots.settled (h : m.Slots n) (hc : ∀ c, m.isFree c = true) : (m.pool.instances : Int) = n := by
  obtain ⟨busy, hb, hn⟩ := h
  have he : busy = ∅ := by
    refine Finset.eq_empty_of_forall_notMem fun c hm => ?_
    have hs := (hb c).1 hm
    rw [hasSlot_of_free (hc c)] at hs
    cases hs
  rw [hn, he, Finset.card_empty]
  simp

/-! ## Conservation -/

variable [DecidableEq α]

/-- Every object is in its place, and every slot is for an object that is out or idle, or for one that a
caller is about to have or to have no more. -/
structure Conserved (m : Machine α) (out : List α) : Prop where
  placed : m.Placed out
  slots : m.Slots (out.length + m.pool.idle.length)

/-- Every slot is for an object that is out or idle, or for one that a caller is about to have or to have no more. -/
def Covered (m : Machine α) (out : List α) : Prop := m.Slots (out.length + m.pool.idle.length)

omit [DecidableEq α] in
theorem covered_new (config : PoolConfig) : Covered (⟨Pool.ofConfig config, .empty, 0, []⟩ : Machine α) [] :=
  ⟨∅, fun c => by simp [hasSlot], rfl⟩

theorem conserved_new (config : PoolConfig) :
    Conserved (⟨Pool.ofConfig config, .empty, 0, []⟩ : Machine α) [] :=
  ⟨placed_new config, covered_new config⟩

omit [DecidableEq α] in
/-- A caller goes into another phase, and its slot stays what it is. -/
theorem Covered.put (h : m.Covered out) (hp : p.hasSlot = m.hasSlot c) : (m.put c p).Covered out := by
  refine Slots.become (j := 0) h (fun _ => rfl) (by omega) ?_
  rw [hp, Int.add_zero]
  rfl

omit [DecidableEq α] in
theorem Covered.takeSlot (h : m.Covered out) (hc : m.hasSlot c = false) : (m.takeSlot c).Covered out := by
  refine Slots.become (j := 1) h (fun _ => rfl) (by push_cast; rfl) ?_
  rw [hc]
  simp [Machine.takeSlot, Machine.put, Phase.hasSlot]

/-- A caller has no object for its slot, and gives it back. -/
theorem Covered.freed (h : m.Covered out) (hc : m.hasSlot c = true) (hp : p.hasSlot = false) :
    (m.freeSlot.put c p).Covered out := by
  have hpos := Slots.pos h (by omega) hc
  have hidle : (m.freeSlot.put c p).pool.idle = m.pool.idle := (sameObjects_freeSlot m).idle
  refine Slots.become h (hasSlot_freeSlot m) (freeSlot_instances hpos) ?_
  rw [hc, hp, hidle]
  simp only [Bool.toNat_true, Bool.toNat_false]
  omega

omit [DecidableEq α] in
/-- The object for which a caller has had a slot is there. -/
theorem Covered.made (h : m.Covered out) (hc : m.hasSlot c = true) :
    Covered (({ m with pool := { m.pool with createCount := m.pool.createCount + 1 } }.note
      (.created obj)).put c (.returned (.got obj))) (obj :: out) := by
  refine Slots.become (j := 0) h (fun _ => rfl) (by simp [note]) ?_
  rw [hc]
  simp only [note, Machine.put, Phase.hasSlot, List.length_cons, Bool.toNat_true, Bool.toNat_false]
  omega

omit [DecidableEq α] in
theorem Covered.reuse {rest : List α} (h : m.Covered out) (hi : m.pool.idle = obj :: rest)
    (hc : m.hasSlot c = false) : (m.reuse c obj rest).Covered (obj :: out) := by
  refine Slots.become (j := 0) h (fun _ => rfl) (by simp [note]) ?_
  rw [hc, hi]
  simp only [Machine.reuse, note, Machine.put, Phase.hasSlot, List.length_cons, Bool.toNat_false]
  omega

/-- An object that is out is destroyed for a caller, which has its slot until then. -/
theorem Covered.destroy (h : m.Covered out) (ho : obj ∈ out) (hc : m.hasSlot c = false)
    {errand : Errand} (he : errand ≠ .discard) : (m.destroy c obj errand).Covered (out.erase obj) := by
  have hlen := List.length_erase_of_mem ho
  have hpos := List.length_pos_of_mem ho
  have hp : (Phase.destroying obj errand).hasSlot = true := by
    cases errand with
    | release => rfl
    | discard => exact absurd rfl he
    | stop => rfl
  refine Slots.become (j := 0) h (fun _ => rfl) (by simp [note]) ?_
  rw [hc, hp]
  simp only [Machine.destroy, note, Machine.put, Bool.toNat_true, Bool.toNat_false]
  omega

/-- An object that is out is destroyed, and its slot is given back before. -/
theorem Covered.discard (h : m.Covered out) (ho : obj ∈ out) (hc : m.hasSlot c = false) :
    (m.freeSlot.destroy c obj .discard).Covered (out.erase obj) := by
  have hlen := List.length_erase_of_mem ho
  have hpos := List.length_pos_of_mem ho
  have hinst : 0 < m.pool.instances := by
    obtain ⟨busy, -, hn⟩ := h
    omega
  have hidle := (sameObjects_freeSlot m).idle
  refine Slots.become h (hasSlot_freeSlot m) (freeSlot_instances hinst) ?_
  rw [hc]
  simp only [Machine.destroy, note, Machine.put, Phase.hasSlot, hidle, Bool.toNat_false]
  omega

omit [DecidableEq α] in
/-- The next idle object is destroyed, if there is one. -/
theorem Covered.clear (h : m.Covered out) (hc : m.hasSlot c = false) : (m.clear c).Covered out := by
  unfold Machine.clear
  split
  · exact h.put hc.symm
  · rename_i obj rest hi
    refine Slots.become (j := 0) h (fun _ => rfl) (by simp [note]) ?_
    rw [hc, hi]
    simp only [Machine.destroy, note, Machine.put, Phase.hasSlot, List.length_cons, Bool.toNat_true,
      Bool.toNat_false]
    omega

omit [DecidableEq α] in
/-- Where a caller was does not matter when it goes on to the next idle object. -/
theorem clear_put (m : Machine α) (c : CallerId) (p : Phase α) : (m.put c p).clear c = m.clear c := by
  have hput (q : Phase α) : (m.callers.set c p).set c q = m.callers.set c q := Table.set_set _ c _ _
  unfold Machine.clear
  cases hi : m.pool.idle with
  | nil => simp only [Machine.put, hi, hput]
  | cons obj rest => simp only [Machine.put, Machine.destroy, note, hi, hput]

omit [DecidableEq α] in
/-- Clearing hands nothing out. -/
theorem clear_eq_put (m : Machine α) (c : CallerId) :
    ∃ (v : Machine α) (p : Phase α), m.clear c = v.put c p ∧ ∀ obj, p ≠ .returned (.got obj) := by
  unfold Machine.clear
  split
  · exact ⟨_, _, rfl, by simp⟩
  · exact ⟨_, _, rfl, by simp⟩

theorem Covered.release (h : m.Covered out) (ho : obj ∈ out) (hc : m.hasSlot c = false) :
    (m.release c obj).Covered (out.erase obj) := by
  have hlen := List.length_erase_of_mem ho
  have hpos := List.length_pos_of_mem ho
  unfold Machine.release
  split
  · -- the slot is now for an idle object, whether or not anybody is woken
    simp only
    refine Slots.become (j := 0) h (fun d => ?_) ?_ ?_
    · split
      · exact hasSlot_wakeAll _ d
      · rfl
    · split <;> simp [note, wakeAll]
    · rw [hc]
      split <;> simp only [note, wakeAll, Machine.put, Phase.hasSlot, List.length_append,
        List.length_singleton, Bool.toNat_false] <;> omega
  · exact h.destroy ho hc (by simp)

theorem Covered.setMaxSize (h : m.Covered out) (hc : m.hasSlot c = false) (k : Nat) :
    (m.setMaxSize c k).Covered out := by
  unfold Covered
  rw [(sameObjects_setMaxSize m c k).idle]
  unfold Machine.setMaxSize
  simp only
  refine Slots.become (j := 0) h (fun d => ?_) ?_ ?_
  · split
    · rfl
    · exact hasSlot_wakeAll _ d
  · split <;> simp [wakeAll]
  · rw [hc]
    simp [Phase.hasSlot]

/-! ## Laws -/

/-- What may be said of a pool and of the objects that are out, and is kept by each of the changes that moves are
made of, if the objects that are made are fresh. -/
structure Law (fresh : Machine α → α → Prop) (Φ : Machine α → List α → Prop) : Prop where
  put : ∀ {m out c p}, Φ m out → p.hasSlot = m.hasSlot c → Φ (m.put c p) out
  tick : ∀ {m out} (millis : Nat), Φ m out → Φ { m with clock := m.clock + millis } out
  failed : ∀ {m out} (f : Failure), Φ m out → Φ (m.note (.createFailed f)) out
  takeSlot : ∀ {m out c}, Φ m out → m.hasSlot c = false → Φ (m.takeSlot c) out
  freed : ∀ {m out c p}, Φ m out → m.hasSlot c = true → p.hasSlot = false → Φ (m.freeSlot.put c p) out
  made : ∀ {m out c obj}, Φ m out → m.hasSlot c = true → fresh m obj →
    Φ (({ m with pool := { m.pool with createCount := m.pool.createCount + 1 } }.note (.created obj)).put c
      (.returned (.got obj))) (obj :: out)
  reuse : ∀ {m out c obj rest}, Φ m out → m.pool.idle = obj :: rest → m.hasSlot c = false →
    Φ (m.reuse c obj rest) (obj :: out)
  release : ∀ {m out c obj}, Φ m out → obj ∈ out → m.hasSlot c = false → Φ (m.release c obj) (out.erase obj)
  discard : ∀ {m out c obj}, Φ m out → obj ∈ out → m.hasSlot c = false →
    Φ (m.freeSlot.destroy c obj .discard) (out.erase obj)
  clear : ∀ {m out c}, Φ m out → m.hasSlot c = false → Φ (m.clear c) out
  setMaxSize : ∀ {m out c} (k : Nat), Φ m out → m.hasSlot c = false → Φ (m.setMaxSize c k) out

theorem conserved_law : Law (fun m obj => .created obj ∉ m.journal) (Conserved (α := α)) where
  put h hp := ⟨h.placed.keep (sameObjects_put _ _ _), Covered.put h.slots hp⟩
  tick _ h := ⟨h.placed.keep ⟨rfl, rfl, rfl, rfl, fun _ => .rfl, fun _ => rfl⟩, h.slots⟩
  failed f h := ⟨h.placed.keep (sameObjects_createFailed _ f), h.slots⟩
  takeSlot h hc := ⟨h.placed.keep (sameObjects_takeSlot _ _), Covered.takeSlot h.slots hc⟩
  freed h hc hp :=
    ⟨(h.placed.keep (sameObjects_freeSlot _)).keep (sameObjects_put _ _ _), Covered.freed h.slots hc hp⟩
  made h hc hf := ⟨(h.placed.create hf).keep (sameObjects_put _ _ _), Covered.made h.slots hc⟩
  reuse h hi hc := ⟨h.placed.reuse hi _, Covered.reuse h.slots hi hc⟩
  release h ho hc := ⟨h.placed.release ho _, Covered.release h.slots ho hc⟩
  discard h ho hc :=
    ⟨(h.placed.keep (sameObjects_freeSlot _)).destroy ho _ .discard, Covered.discard h.slots ho hc⟩
  clear h hc := ⟨h.placed.clear _, Covered.clear h.slots hc⟩
  setMaxSize k h hc := ⟨h.placed.keep (sameObjects_setMaxSize _ _ k), Covered.setMaxSize h.slots hc k⟩

/-! ## Moves -/

omit [DecidableEq α] in
theorem hasSlot_of_phase (h : m.callers c = some p) : m.hasSlot c = p.hasSlot := by
  unfold hasSlot
  rw [h]
  rfl

variable {fresh : Machine α → α → Prop} {Φ : Machine α → List α → Prop}

theorem Law.call (L : Law fresh Φ) (h : Φ m (loans.map Prod.snd)) (k : Call α)
    (hout : ∀ obj ∈ m.givenBack? (.call c k), obj ∈ loans.map Prod.snd) :
    Φ (m.step (.call c k)) ((m.lent loans (.call c k)).map Prod.snd) := by
  by_cases hfree : m.isFree c = true
  swap
  · -- a caller whose call is under way does not call
    have hs : m.step (.call c k) = m := by
      unfold step
      simp only
      rw [if_neg hfree]
    have hg : m.givenBack? (.call c k) = none := by
      cases k <;> simp [givenBack?, hfree]
    rw [hs, lent_eq_self hg rfl]
    exact h
  have hc := hasSlot_of_free hfree
  have hs : m.step (.call c k) = m.call c k := by
    unfold step
    simp only
    rw [if_pos hfree]
  rw [hs]
  cases k with
  | get =>
    rw [lent_eq_self rfl rfl]
    exact L.put h hc.symm
  | release obj =>
    have hg : m.givenBack? (.call c (.release obj)) = some obj := by simp [givenBack?, hfree]
    rw [lent_of_givenBack hg]
    exact L.release h (hout obj hg) hc
  | discard obj =>
    have hg : m.givenBack? (.call c (.discard obj)) = some obj := by simp [givenBack?, hfree]
    rw [lent_of_givenBack hg]
    exact L.discard h (hout obj hg) hc
  | stop =>
    rw [lent_eq_self rfl rfl]
    exact L.clear h hc
  | setMaxSize n =>
    rw [lent_eq_self rfl rfl]
    exact L.setMaxSize n h hc

theorem Law.attempt (L : Law fresh Φ) (h : Φ m (loans.map Prod.snd)) {d : Option Nat}
    (hp : m.callers c = some (.trying d)) :
    Φ (m.step (.resume c)) ((m.lent loans (.resume c)).map Prod.snd) := by
  have hf : m.isFree c = false := isFree_of_phase hp (by simp)
  have hc : m.hasSlot c = false := hasSlot_of_phase hp
  have hs : m.step (.resume c) = m.attempt c d := by simp only [step, resume, hp]
  cases hi : m.pool.idle with
  | cons obj rest =>
    have hr : m.step (.resume c) = m.reuse c obj rest := by rw [hs, Machine.attempt, hi]
    rw [lent_of_got hf (.inl rfl) hr, hr]
    exact L.reuse h hi hc
  | nil =>
    by_cases hroom : m.pool.hasRoom = true
    · have hr : m.step (.resume c) = m.takeSlot c := by
        rw [hs, Machine.attempt, hi]
        simp only [hroom, if_true]
      rw [lent_of_phase (.inl rfl) hr (by simp), hr]
      exact L.takeSlot h hc
    · have hr : m.step (.resume c) = m.put c (.looking d) := by
        rw [hs, Machine.attempt, hi]
        simp only [hroom, if_false, Bool.false_eq_true]
      rw [lent_of_phase (.inl rfl) hr (by simp), hr]
      exact L.put h hc.symm

theorem Law.look (L : Law fresh Φ) (h : Φ m (loans.map Prod.snd)) {d : Option Nat}
    (hp : m.callers c = some (.looking d)) :
    Φ (m.step (.resume c)) ((m.lent loans (.resume c)).map Prod.snd) := by
  have hf : m.isFree c = false := isFree_of_phase hp (by simp)
  have hc : m.hasSlot c = false := hasSlot_of_phase hp
  have hs : m.step (.resume c) = m.look c d := by simp only [step, resume, hp]
  cases hi : m.pool.idle with
  | cons obj rest =>
    have hr : m.step (.resume c) = m.reuse c obj rest := by
      rw [hs]
      unfold Machine.look
      rw [hi]
    rw [lent_of_got hf (.inl rfl) hr, hr]
    exact L.reuse h hi hc
  | nil =>
    -- without an idle object it goes into a phase without slot and object
    obtain ⟨p, hr, hp, hn⟩ : ∃ p, m.step (.resume c) = m.put c p ∧ p.hasSlot = false ∧
        ∀ obj, p ≠ .returned (.got obj) := by
      rw [hs]
      unfold Machine.look
      rw [hi]
      simp only
      split
      · exact ⟨_, rfl, rfl, by simp⟩
      · split
        · exact ⟨_, rfl, rfl, by simp⟩
        · split
          · exact ⟨_, rfl, rfl, by simp⟩
          · exact ⟨_, rfl, rfl, by simp⟩
    rw [lent_of_phase (.inl rfl) hr hn, hr]
    exact L.put h (hp.trans hc.symm)

theorem Law.resume (L : Law fresh Φ) (h : Φ m (loans.map Prod.snd)) (c : CallerId) :
    Φ (m.step (.resume c)) ((m.lent loans (.resume c)).map Prod.snd) := by
  have hself (hs : m.step (.resume c) = m) :
      Φ (m.step (.resume c)) ((m.lent loans (.resume c)).map Prod.snd) := by
    rw [lent_of_step_eq_self (.inl rfl) hs, hs]
    exact h
  cases hp : m.callers c with
  | none => exact hself (by simp only [step, Machine.resume, hp])
  | some p =>
    cases p with
    | trying d => exact L.attempt h hp
    | looking d => exact L.look h hp
    | blocked d =>
      have hr : m.step (.resume c) = m.put c (.looking d) := by simp only [step, Machine.resume, hp]
      rw [lent_of_phase (.inl rfl) hr (by simp), hr]
      exact L.put h (hasSlot_of_phase hp).symm
    | creating => exact hself (by simp only [step, Machine.resume, hp])
    | destroying obj errand => exact hself (by simp only [step, Machine.resume, hp])
    | returned r => exact hself (by simp only [step, Machine.resume, hp])

/-- Somebody has no object for its slot in the end, and gives it back. -/
theorem Law.worked_freed (L : Law fresh Φ) {w : Work α} {r : Result α} {v : Machine α}
    (h : Φ v (loans.map Prod.snd)) (hc : v.hasSlot c = true)
    (hs : m.step (.worked c w) = v.freeSlot.put c (.returned r)) (hr : ∀ obj, r ≠ .got obj) :
    Φ (m.step (.worked c w)) ((m.lent loans (.worked c w)).map Prod.snd) := by
  rw [lent_of_phase (.inr ⟨w, rfl⟩) hs fun obj e => hr obj (Phase.returned.inj e), hs]
  exact L.freed h hc rfl

/-- The factory had an object to destroy for a caller. -/
theorem Law.worked_destroying (L : Law fresh Φ) (h : Φ m (loans.map Prod.snd)) {errand : Errand} (w : Work α)
    (hp : m.callers c = some (.destroying obj errand)) (hw : w = .destroyed ∨ ∃ p, w = .panicked p) :
    Φ (m.step (.worked c w)) ((m.lent loans (.worked c w)).map Prod.snd) := by
  have hc : m.hasSlot c = (Phase.destroying obj errand).hasSlot := hasSlot_of_phase hp
  cases errand with
  | release =>
    obtain ⟨r, hs, hr⟩ : ∃ r, m.step (.worked c w) = m.freeSlot.put c (.returned r) ∧ ∀ x, r ≠ .got x := by
      rcases hw with rfl | ⟨payload, rfl⟩ <;> simp only [step, Machine.worked, hp]
      · exact ⟨_, rfl, by simp⟩
      · exact ⟨_, rfl, by simp⟩
    exact L.worked_freed h hc hs hr
  | discard =>
    -- its slot has been given back before
    obtain ⟨r, hs, hr⟩ : ∃ r, m.step (.worked c w) = m.put c (.returned r) ∧ ∀ x, r ≠ .got x := by
      rcases hw with rfl | ⟨payload, rfl⟩ <;> simp only [step, Machine.worked, hp]
      · exact ⟨_, rfl, by simp⟩
      · exact ⟨_, rfl, by simp⟩
    rw [lent_of_phase (.inr ⟨w, rfl⟩) hs fun x e => hr x (Phase.returned.inj e), hs]
    exact L.put h hc.symm
  | stop =>
    rcases hw with rfl | ⟨payload, rfl⟩
    · -- the slot is given back, and the next idle object follows
      have hs : m.step (.worked c .destroyed) = (m.freeSlot.put c (.returned .done)).clear c := by
        rw [clear_put]
        simp only [step, Machine.worked, hp]
      obtain ⟨v, q, hv, hq⟩ := clear_eq_put (m.freeSlot.put c (.returned .done)) c
      rw [lent_of_phase (.inr ⟨_, rfl⟩) (hs.trans hv) hq, hs]
      exact L.clear (L.freed h hc rfl) (hasSlot_put_self _ c _)
    · exact L.worked_freed (r := .panicked payload) h hc (by simp only [step, Machine.worked, hp])
        (by simp)

theorem Law.worked (L : Law fresh Φ) (h : Φ m (loans.map Prod.snd)) (w : Work α)
    (hfresh : ∀ obj ∈ m.made? (.worked c w), fresh m obj) :
    Φ (m.step (.worked c w)) ((m.lent loans (.worked c w)).map Prod.snd) := by
  have hself (hs : m.step (.worked c w) = m) :
      Φ (m.step (.worked c w)) ((m.lent loans (.worked c w)).map Prod.snd) := by
    rw [lent_of_step_eq_self (.inr ⟨w, rfl⟩) hs, hs]
    exact h
  cases hp : m.callers c with
  | none => exact hself (by simp only [step, Machine.worked, hp])
  | some p =>
    cases p with
    | trying d => exact hself (by simp only [step, Machine.worked, hp])
    | looking d => exact hself (by simp only [step, Machine.worked, hp])
    | blocked d => exact hself (by simp only [step, Machine.worked, hp])
    | returned r => exact hself (by simp only [step, Machine.worked, hp])
    | creating =>
      have hf : m.isFree c = false := isFree_of_phase hp (by simp)
      have hc : m.hasSlot c = true := hasSlot_of_phase hp
      cases w with
      | made obj =>
        have hs : m.step (.worked c (.made obj)) =
            ({ m with pool := { m.pool with createCount := m.pool.createCount + 1 } }.note
              (.created obj)).put c (.returned (.got obj)) := by
          simp only [step, Machine.worked, hp]
        rw [lent_of_got hf (.inr ⟨_, rfl⟩) hs, hs]
        exact L.made h hc (hfresh obj (by simp [made?, hp]))
      | failed f =>
        exact L.worked_freed (r := .failed f) (L.failed f h) hc (by simp only [step, Machine.worked, hp])
          (by simp)
      | panicked payload =>
        exact L.worked_freed (r := .panicked payload) h hc (by simp only [step, Machine.worked, hp])
          (by simp)
      | destroyed => exact hself (by simp only [step, Machine.worked, hp])
    | destroying obj errand =>
      cases w with
      | made obj => exact hself (by cases errand <;> simp only [step, Machine.worked, hp])
      | failed f => exact hself (by cases errand <;> simp only [step, Machine.worked, hp])
      | destroyed => exact L.worked_destroying h .destroyed hp (.inl rfl)
      | panicked payload => exact L.worked_destroying h (.panicked payload) hp (.inr ⟨payload, rfl⟩)

/-- **Every move keeps a law**, if what is given back is out and what is made is fresh. -/
theorem Law.step (L : Law fresh Φ) (h : Φ m (loans.map Prod.snd))
    (hout : ∀ obj ∈ m.givenBack? move, obj ∈ loans.map Prod.snd) (hfresh : ∀ obj ∈ m.made? move, fresh m obj) :
    Φ (m.step move) ((m.lent loans move).map Prod.snd) := by
  cases move with
  | call c k => exact L.call h k hout
  | resume c => exact L.resume h c
  | worked c w => exact L.worked h w hfresh
  | tick millis =>
    rw [lent_eq_self rfl rfl]
    exact L.tick millis h

theorem Law.run (L : Law (fun _ _ => True) Φ) {moves : List (Move α)} (hh : m.HonestRun loans moves)
    (h : Φ m (loans.map Prod.snd)) : Φ (m.run moves) ((m.lentAfter loans moves).map Prod.snd) := by
  induction moves generalizing m loans with
  | nil => exact h
  | cons move moves ih => exact ih hh.2 (L.step h hh.1 fun _ _ => trivial)

/-- **A fair move conserves the objects and the slots.** -/
theorem Conserved.step (h : m.Conserved (loans.map Prod.snd)) (hf : m.Fair loans move) :
    (m.step move).Conserved ((m.lent loans move).map Prod.snd) :=
  conserved_law.step h hf.out hf.fresh

theorem Conserved.run {moves : List (Move α)} (h : m.Conserved (loans.map Prod.snd))
    (hf : m.FairRun loans moves) :
    (m.run moves).Conserved ((m.lentAfter loans moves).map Prod.snd) := by
  induction moves generalizing m loans with
  | nil => exact h
  | cons move moves ih => exact ih (h.step hf.1) hf.2

/-! ## Where everything is -/

/-- What a fair move hands out has not been out before, and has never been destroyed. -/
theorem Conserved.handedOut (h : m.Conserved (loans.map Prod.snd)) (hf : m.Fair loans move)
    (hh : m.handedOut? move = some (c, obj)) :
    m.lent loans move = (c, obj) :: loans ∧ obj ∉ loans.map Prod.snd ∧
      .destroyed obj ∉ (m.step move).journal := by
  have hg : m.givenBack? move = none := by
    cases move with
    | call c k => cases hh
    | resume c => rfl
    | worked c w => rfl
    | tick millis => rfl
  have hl : m.lent loans move = (c, obj) :: loans := lent_of_handedOut hg hh
  have hs := h.step hf
  rw [hl] at hs
  have hm : obj ∈ ((c, obj) :: loans).map Prod.snd := List.mem_cons_self
  obtain ⟨-, hone, -, hd⟩ := hs.placed.of_mem_out hm
  refine ⟨hl, ?_, hd⟩
  rw [List.map_cons, List.count_cons_self] at hone
  exact List.count_eq_zero.1 (by omega)

/-- **The pool conserves its objects.** After any fair run every object that the factory has made is with
one caller, or idle once, or has been passed to the factory once to be destroyed. The counters say how
many are with callers or idle, and so do the slots, but for those of the callers that wait for the
factory. What is handed out next is not out, and has not been destroyed. -/
theorem conservation_exact (config : PoolConfig) (moves : List (Move α))
    (h : FairRun ⟨Pool.ofConfig config, .empty, 0, []⟩ [] moves) :
    let m := run ⟨Pool.ofConfig config, .empty, 0, []⟩ moves
    let loans := lentAfter ⟨Pool.ofConfig config, .empty, 0, []⟩ [] moves
    let out := loans.map Prod.snd
    (∀ obj, .created obj ∈ m.journal → m.places out obj = 1) ∧
      (∀ obj, .created obj ∉ m.journal → m.places out obj = 0) ∧
      (m.pool.removeCount ≤ m.pool.createCount ∧ m.pool.size = out.length + m.pool.idle.length) ∧
      (∃ busy : Finset CallerId, (∀ c, c ∈ busy ↔ m.hasSlot c = true) ∧
        m.pool.instances = out.length + m.pool.idle.length + busy.card) ∧
      ((∀ c, m.isFree c = true) → m.pool.instances = m.pool.size) ∧
      m.pool.idle.length ≤ config.poolSize ∧
      ∀ move c obj, m.Fair loans move → m.handedOut? move = some (c, obj) →
        m.lent loans move = (c, obj) :: loans ∧ obj ∉ out ∧
          .destroyed obj ∉ (m.step move).journal := by
  intro m loans out
  have hm : m.Conserved out := (conserved_new config).run h
  have hmade := hm.placed.made
  have hsize : m.pool.size = out.length + m.pool.idle.length := by
    unfold Pool.size
    omega
  refine ⟨fun obj hc => ?_, fun obj hc => ?_, ⟨by omega, hsize⟩, ?_, fun hfree => ?_, ?_,
    fun move c obj hf hh => hm.handedOut hf hh⟩
  · rw [hm.placed.place obj, if_pos hc]
  · rw [hm.placed.place obj, if_neg hc]
  · obtain ⟨busy, hb, hn⟩ := hm.slots
    exact ⟨busy, hb, by omega⟩
  · have hn := hm.slots.settled hfree
    omega
  · have hr := hm.placed.room
    have hp : m.pool.poolSize = config.poolSize := run_poolSize _ moves
    omega

/-- Objects 7, 8 and 9 are made while other attempts fail. 7 is discarded with a panic. 8 comes back and
goes to the caller `d`, which has waited for it. In the shorter run nobody is left with a call under
way. -/
theorem conservation_exact_waited :
    let a : CallerId := ⟨0⟩
    let b : CallerId := ⟨1⟩
    let c : CallerId := ⟨2⟩
    let d : CallerId := ⟨3⟩
    let config : PoolConfig := ⟨2, 1, 0⟩
    let moves : List (Move Nat) := [.call a .get, .resume a, .worked a (.made 7), .call b .get, .resume b,
      .worked b (.panicked .other), .call b .get, .resume b, .worked b (.made 8), .call c .get, .resume c,
      .resume c, .call a (.discard 7), .worked a (.panicked .other), .resume c, .resume c,
      .worked c (.failed ⟨"full", []⟩), .call c .get, .resume c, .worked c (.made 9), .call d .get,
      .resume d, .resume d, .call b (.release 8)]
    let shorter : List (Move Nat) := [.call a .get, .resume a, .worked a (.made 7), .call a (.release 7)]
    let new : Machine Nat := ⟨Pool.ofConfig config, .empty, 0, []⟩
    let m := new.run moves
    let loans := new.lentAfter [] moves
    let rested := new.run shorter
    new.FairRun [] moves ∧ loans = [(c, 9)] ∧ m.places (loans.map Prod.snd) 7 = 1 ∧
      (m.Fair loans (.resume d) ∧ m.handedOut? (.resume d) = some (d, 8)) ∧
      (m.lent loans (.resume d) = (d, 8) :: loans ∧ 8 ∉ loans.map Prod.snd ∧
        .destroyed 8 ∉ (m.step (.resume d)).journal) ∧
      (∀ x, rested.isFree x = true) ∧ rested.pool.instances = rested.pool.size := by
  intro a b c d config moves shorter new m loans rested
  have hfair : new.FairRun [] moves := by decide +kernel
  have hloans : loans = [(c, 9)] := by decide +kernel
  have hmade : .created 7 ∈ m.journal := by decide +kernel
  have hnext : m.Fair loans (.resume d) := by decide +kernel
  have hout : m.handedOut? (.resume d) = some (d, 8) := by decide +kernel
  have hshort : new.FairRun [] shorter := by decide +kernel
  have hfree : ∀ x, rested.isFree x = true := by
    rintro ⟨i⟩
    match i with
    | 0 => rfl
    | n + 1 => rfl
  obtain ⟨hplace, -, -, -, -, -, hhand⟩ := conservation_exact config moves hfair
  obtain ⟨-, -, -, -, hslots, -⟩ := conservation_exact config shorter hshort
  exact ⟨hfair, hloans, hplace 7 hmade, ⟨hnext, hout⟩, hhand (.resume d) d 8 hnext hout, hfree,
    hslots hfree⟩

end Machine

end Sluice.Pool
