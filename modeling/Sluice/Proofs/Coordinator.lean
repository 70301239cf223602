import Mathlib.Tactic.Common
import Sluice.Coordinator

/-!
# A coordinator's transitions

* `closing`, `completed`, `suspendedWith`, `reopening`, `struck`: a coordinator after the transitions that
  `World` makes, without the gates.
* `Coordinator.Sound`: what the fields of a coordinator say of each other. A pending set is there
  while a suspend goes on and only then; it is of the current generation, not empty, and waits only for
  registered gates. Each transition keeps it.
* `Coordinator.Alike`: coordinators that differ only in whom they tell and in who holds them.
-/

namespace Sluice

/-! ## Pending sets -/

namespace Pending

variable {p : Pending} {g x : GateId}

theorem waitsFor_iff : p.waitsFor g = true ↔ g ∈ p.gates.map Prod.fst := by
  simp [waitsFor]

theorem waitsFor_strike : (p.strike g).waitsFor x = true ↔ p.waitsFor x = true ∧ x ≠ g := by
  simp only [waitsFor_iff, strike, List.mem_map, List.mem_filter, decide_eq_true_eq]
  constructor
  · rintro ⟨y, ⟨hy, hne⟩, rfl⟩
    exact ⟨⟨y, hy, rfl⟩, hne⟩
  · rintro ⟨⟨y, hy, rfl⟩, hne⟩
    exact ⟨y, ⟨hy, hne⟩, rfl⟩

theorem waitsFor_add {n : String} : (p.add g n).waitsFor x = true ↔ x = g ∨ p.waitsFor x = true := by
  have h := waitsFor_strike (p := p) (g := g) (x := x)
  simp only [waitsFor_iff] at h ⊢
  simp only [add, List.map_cons, List.mem_cons, h]
  tauto

theorem nodup_strike (h : (p.gates.map Prod.fst).Nodup) (g : GateId) :
    ((p.strike g).gates.map Prod.fst).Nodup :=
  h.sublist (List.filter_sublist.map _)

theorem nodup_add (h : (p.gates.map Prod.fst).Nodup) (g : GateId) (n : String) :
    ((p.add g n).gates.map Prod.fst).Nodup := by
  have hg : (p.strike g).waitsFor g ≠ true := fun h => (waitsFor_strike.1 h).2 rfl
  rw [ne_eq, waitsFor_iff] at hg
  exact List.nodup_cons.2 ⟨hg, nodup_strike h g⟩

end Pending

namespace Coordinator

/-! ## Transitions -/

/-- The coordinator that starts to suspend. -/
def closing (k : Coordinator) : Coordinator :=
  ({ k with generation := k.generation + 1 }.notify .suspendStarted).setState .suspending

/-- The coordinator once nothing is waited for any more. -/
def completed (k : Coordinator) (date : String) : Coordinator :=
  ({ k with pending := none, suspendedAt := some date }.notify .suspendComplete).setState .suspended

/-- The coordinator once its gates are closed, of which these are busy. -/
def suspendedWith (k : Coordinator) (busy : List (GateId × String)) (date : String) : Coordinator :=
  if busy = [] then k.closing.completed date
  else { k.closing with pending := some ⟨k.generation + 1, busy⟩ }

/-- The coordinator that resumes. -/
def reopening (k : Coordinator) : Coordinator :=
  ({ k with generation := k.generation + 1, pending := none, suspendedAt := none }.notify
    .resumed).setState .running

/-- The coordinator that no longer waits for a gate. -/
def struck (k : Coordinator) (g : GateId) (date : String) : Coordinator :=
  match k.pending with
  | none => k
  | some p =>
    if p.waitsFor g = true then
      if (p.strike g).gates = [] then k.completed date else { k with pending := some (p.strike g) }
    else k

/-- The coordinator with one gate more, which it waits for if it is busy. -/
def joined (k : Coordinator) (g : GateId) (name : String) (busy : Bool) : Coordinator :=
  { k with
    gates := k.gates ++ [g]
    pending := k.pending.map fun p => if busy then p.add g name else p }

section Notify

variable (k : Coordinator) (h : Hook)

/-- To queue a hook changes the queue and nothing else. -/
theorem notify_eq : k.notify h = { k with outbox := (k.notify h).outbox } := by
  unfold notify; split <;> rfl

@[simp] theorem notify_state : (k.notify h).state = k.state := by rw [notify_eq]
@[simp] theorem notify_generation : (k.notify h).generation = k.generation := by rw [notify_eq]
@[simp] theorem notify_gates : (k.notify h).gates = k.gates := by rw [notify_eq]
@[simp] theorem notify_listeners : (k.notify h).listeners = k.listeners := by rw [notify_eq]
@[simp] theorem notify_pending : (k.notify h).pending = k.pending := by rw [notify_eq]
@[simp] theorem notify_suspendedAt : (k.notify h).suspendedAt = k.suspendedAt := by rw [notify_eq]
@[simp] theorem notify_dispatching : (k.notify h).dispatching = k.dispatching := by rw [notify_eq]
@[simp] theorem notify_version : (k.notify h).version = k.version := by rw [notify_eq]
@[simp] theorem notify_handles : (k.notify h).handles = k.handles := by rw [notify_eq]

end Notify

section Transitions

variable (k : Coordinator) (g : GateId) (busy : List (GateId × String)) (date name : String) (b : Bool)

@[simp] theorem suspendedWith_generation :
    (k.suspendedWith busy date).generation = k.generation + 1 := by
  unfold suspendedWith completed closing; split <;> simp [setState]

@[simp] theorem suspendedWith_gates : (k.suspendedWith busy date).gates = k.gates := by
  unfold suspendedWith completed closing; split <;> simp [setState]

theorem suspendedWith_state :
    (k.suspendedWith busy date).state = if busy = [] then .suspended else .suspending := by
  unfold suspendedWith completed closing; split <;> simp [setState]

theorem suspendedWith_pending : (k.suspendedWith busy date).pending =
    if busy = [] then none else some ⟨k.generation + 1, busy⟩ := by
  unfold suspendedWith completed closing; split <;> simp [setState]

@[simp] theorem suspendedWith_dispatching :
    (k.suspendedWith busy date).dispatching = k.dispatching := by
  unfold suspendedWith completed closing; split <;> simp [setState]

@[simp] theorem reopening_gates : k.reopening.gates = k.gates := by
  unfold reopening; simp [setState]

theorem reopening_generation : k.reopening.generation = k.generation + 1 := by
  unfold reopening; simp [setState]

@[simp] theorem reopening_dispatching : k.reopening.dispatching = k.dispatching := by
  unfold reopening; simp [setState]

@[simp] theorem reopening_state : k.reopening.state = .running := rfl

@[simp] theorem reopening_pending : k.reopening.pending = none := by
  unfold reopening; simp [setState]

@[simp] theorem completed_state : (k.completed date).state = .suspended := rfl

@[simp] theorem completed_generation : (k.completed date).generation = k.generation := by
  unfold completed; simp [setState]

@[simp] theorem completed_gates : (k.completed date).gates = k.gates := by
  unfold completed; simp [setState]

@[simp] theorem completed_dispatching : (k.completed date).dispatching = k.dispatching := by
  unfold completed; simp [setState]

@[simp] theorem completed_pending : (k.completed date).pending = none := by
  unfold completed; simp [setState]

@[simp] theorem struck_generation : (k.struck g date).generation = k.generation := by
  unfold struck; repeat' (first | split | simp)

@[simp] theorem struck_gates : (k.struck g date).gates = k.gates := by
  unfold struck; repeat' (first | split | simp)

/-- Only a pending set that waits for the gate is touched. -/
theorem struck_eq_self (h : ∀ p, k.pending = some p → p.waitsFor g ≠ true) : k.struck g date = k := by
  unfold struck
  split
  · rfl
  · rename_i p hp
    rw [if_neg (h p hp)]

theorem struck_of_waits {p : Pending} (hp : k.pending = some p) (hw : p.waitsFor g = true) :
    k.struck g date =
      if (p.strike g).gates = [] then k.completed date else { k with pending := some (p.strike g) } := by
  unfold struck
  rw [hp]
  simp only [hw, if_true]

/-- **A gate is struck**: only the pending set changes, or the gate was all that was waited for. -/
theorem struck_cases :
    (∃ q, k.struck g date = { k with pending := q }) ∨
      (k.struck g date = k.completed date ∧ ∃ p, k.pending = some p ∧ p.waitsFor g = true ∧
        ∀ f, p.waitsFor f = true → f = g) := by
  by_cases hw : ∀ p, k.pending = some p → p.waitsFor g ≠ true
  · rw [struck_eq_self _ _ _ hw]
    exact .inl ⟨k.pending, rfl⟩
  · push Not at hw
    obtain ⟨p, hp, hw⟩ := hw
    rw [struck_of_waits _ _ _ hp hw]
    split
    · rename_i hnil
      -- whatever else were waited for would still be there
      refine .inr ⟨rfl, p, hp, hw, fun f hf => ?_⟩
      by_contra hfg
      have hs := Pending.waitsFor_iff.1 (Pending.waitsFor_strike.2 ⟨hf, hfg⟩)
      rw [hnil] at hs
      simp at hs
    · exact .inl ⟨_, rfl⟩

/-- **What is waited for once a gate is struck**: what was waited for before, but for that gate. -/
theorem struck_pending {q : Pending} (hq : (k.struck g date).pending = some q) :
    ∃ p, k.pending = some p ∧ q.gates ⊆ p.gates ∧
      ∀ f, q.waitsFor f = true ↔ p.waitsFor f = true ∧ f ≠ g := by
  by_cases hw : ∀ p, k.pending = some p → p.waitsFor g ≠ true
  · rw [struck_eq_self _ _ _ hw] at hq
    refine ⟨q, hq, List.Subset.refl _, fun f => ⟨fun hf => ⟨hf, ?_⟩, And.left⟩⟩
    rintro rfl
    exact hw q hq hf
  · push Not at hw
    obtain ⟨p, hp, hw⟩ := hw
    rw [struck_of_waits _ _ _ hp hw] at hq
    split at hq
    · simp at hq
    · cases hq
      exact ⟨p, hp, List.filter_sublist.subset, fun f => Pending.waitsFor_strike⟩

end Transitions

/-! ## Life -/

section Life

variable (k : Coordinator) (g : GateId) (busy : List (GateId × String)) (date : String)

@[simp] theorem isAlive_suspendedWith : (k.suspendedWith busy date).isAlive = k.isAlive := by
  unfold suspendedWith completed closing isAlive; split <;> simp [setState]

@[simp] theorem isAlive_reopening : k.reopening.isAlive = k.isAlive := by
  unfold reopening isAlive; simp [setState]

@[simp] theorem isAlive_struck : (k.struck g date).isAlive = k.isAlive := by
  unfold struck completed isAlive; repeat' (first | split | simp [setState])

end Life

/-! ## Soundness -/

/-- The pending set of a coordinator. -/
structure Waits (k : Coordinator) (p : Pending) : Prop where
  generation : p.generation = k.generation
  ne_nil : p.gates ≠ []
  nodup : (p.gates.map Prod.fst).Nodup
  registered : ∀ g, p.waitsFor g = true → g ∈ k.gates

/-- The fields of a coordinator fit each other. -/
structure Sound (k : Coordinator) : Prop where
  pending_iff : k.pending ≠ none ↔ k.state = .suspending
  date_iff : k.suspendedAt ≠ none ↔ k.state = .suspended
  published : k.published = k.state
  nodup : k.gates.Nodup
  waits : ∀ p, k.pending = some p → k.Waits p

variable {k k' : Coordinator}

theorem sound_new : Sound {} :=
  ⟨by simp, by simp, rfl, List.nodup_nil, fun p h => by simp at h⟩

theorem Sound.pending_eq_none (h : k.Sound) (hs : k.state ≠ .suspending) : k.pending = none := by
  by_contra hp
  exact hs (h.pending_iff.1 hp)

theorem Sound.pending_of_running (h : k.Sound) (hs : k.state = .running) : k.pending = none :=
  h.pending_eq_none (by rw [hs]; decide)

theorem Sound.exists_pending (h : k.Sound) (hs : k.state = .suspending) : ∃ p, k.pending = some p :=
  Option.ne_none_iff_exists'.1 (h.pending_iff.2 hs)

theorem Sound.state_of_pending (h : k.Sound) {p : Pending} (hp : k.pending = some p) :
    k.state = .suspending := h.pending_iff.1 (by rw [hp]; exact Option.some_ne_none p)

theorem Sound.closed_of_pending (h : k.Sound) {p : Pending} (hp : k.pending = some p) :
    k.state ≠ .running := by
  rw [h.state_of_pending hp]
  decide

/-- Some names are shown as waited for just while a suspend goes on. -/
theorem Sound.pendingNames_ne_nil (h : k.Sound) : k.pendingNames ≠ [] ↔ k.state = .suspending := by
  unfold pendingNames
  cases hp : k.pending with
  | none =>
    have hs : k.state ≠ .suspending := fun hs => h.pending_iff.2 hs hp
    simp [hs]
  | some p =>
    -- putting names in order loses none
    have hlen :=
      (List.mergeSort_perm (p.gates.map Prod.snd) fun a b => decide (a ≤ b)).length_eq
    have hne : 0 < p.gates.length := List.length_pos_iff.2 (h.waits p hp).ne_nil
    rw [List.length_map] at hlen
    refine iff_of_true (fun hnil => ?_) (h.state_of_pending hp)
    simp only at hnil
    rw [hnil, List.length_nil] at hlen
    omega

theorem Sound.completed (h : k.Sound) (date : String) : (k.completed date).Sound := by
  refine ⟨by simp, ?_, rfl, by simpa using h.nodup, fun p hp => by simp at hp⟩
  simp [Coordinator.completed, setState]

theorem Sound.suspendedWith (h : k.Sound) {busy : List (GateId × String)} (date : String)
    (hnodup : (busy.map Prod.fst).Nodup) (hreg : ∀ g ∈ busy.map Prod.fst, g ∈ k.gates)
    (hs : k.state = .running) : (k.suspendedWith busy date).Sound := by
  -- a running coordinator has no date to keep
  have hdate : k.suspendedAt = none := by
    by_contra hd
    rw [h.date_iff.1 hd] at hs; cases hs
  refine ⟨?_, ?_, ?_, by simpa using h.nodup, fun p hp => ?_⟩
  · rw [suspendedWith_pending, suspendedWith_state]; split <;> simp
  · rw [suspendedWith_state]
    unfold Coordinator.suspendedWith Coordinator.completed closing
    split <;> simp [setState, hdate]
  · rw [suspendedWith_state]
    unfold Coordinator.suspendedWith Coordinator.completed closing
    split <;> rfl
  · rw [suspendedWith_pending] at hp
    split at hp
    · cases hp
    · rename_i hne
      cases hp
      refine ⟨by simp, hne, hnodup, fun g hg => ?_⟩
      rw [suspendedWith_gates]
      exact hreg g (Pending.waitsFor_iff.1 hg)

theorem Sound.reopening (h : k.Sound) : k.reopening.Sound := by
  refine ⟨by simp, ?_, rfl, by simpa using h.nodup, fun p hp => by simp at hp⟩
  simp [Coordinator.reopening, setState]

/-- A gate is struck, and others may have been unregistered with it. -/
theorem Sound.struck_of_subset (h : k.Sound) {g : GateId} {gs : List GateId} (hnodup : gs.Nodup)
    (hgs : ∀ x ∈ k.gates, x ≠ g → x ∈ gs) (date : String) :
    (({ k with gates := gs } : Coordinator).struck g date).Sound := by
  unfold Coordinator.struck
  split
  · rename_i hp
    exact ⟨h.pending_iff, h.date_iff, h.published, hnodup, fun p hq => (nomatch hp.symm.trans hq)⟩
  rename_i p hp
  have hw := h.waits p hp
  split
  · split
    · -- the gate was the last
      refine ⟨by simp, ?_, rfl, by simpa using hnodup, fun q hq => by simp at hq⟩
      simp [Coordinator.completed, setState]
    · rename_i hne
      refine ⟨by simp [h.state_of_pending hp], h.date_iff, h.published, hnodup, fun q hq => ?_⟩
      cases hq
      refine ⟨hw.generation, hne, Pending.nodup_strike hw.nodup g, fun x hx => ?_⟩
      obtain ⟨hx, hxg⟩ := Pending.waitsFor_strike.1 hx
      exact hgs x (hw.registered x hx) hxg
  · -- the gate was not waited for, so it is none of those that are
    rename_i hng
    refine ⟨h.pending_iff, h.date_iff, h.published, hnodup, fun q hq => ?_⟩
    cases hp.symm.trans hq
    exact ⟨hw.generation, hw.ne_nil, hw.nodup,
      fun x hx => hgs x (hw.registered x hx) fun hxg => hng (hxg ▸ hx)⟩

theorem Sound.struck (h : k.Sound) (g : GateId) (date : String) : (k.struck g date).Sound :=
  h.struck_of_subset h.nodup (fun _ hx _ => hx) date

/-- The coordinator that no longer has a gate. -/
theorem Sound.removed (h : k.Sound) (g : GateId) (date : String) :
    (({ k with gates := k.gates.filter (· ≠ g) } : Coordinator).struck g date).Sound := by
  refine h.struck_of_subset (h.nodup.filter _) (fun x hx hne => ?_) date
  exact List.mem_filter.2 ⟨hx, decide_eq_true hne⟩

theorem Sound.joined (h : k.Sound) {g : GateId} (hg : g ∉ k.gates) (name : String) (busy : Bool) :
    (k.joined g name busy).Sound := by
  refine ⟨?_, h.date_iff, h.published, ?_, fun q hq => ?_⟩
  · rw [Coordinator.joined, ← h.pending_iff]; simp
  · refine List.nodup_append.2 ⟨h.nodup, by simp, fun x hx y hy => ?_⟩
    rw [List.mem_singleton.1 hy]
    exact fun hxg => hg (hxg ▸ hx)
  · obtain ⟨p, hp, rfl⟩ := Option.map_eq_some_iff.1 hq
    have hw := h.waits p hp
    cases busy with
    | false =>
      exact ⟨hw.generation, hw.ne_nil, hw.nodup,
        fun x hx => List.mem_append_left _ (hw.registered x hx)⟩
    | true =>
      -- the new gate is the only one that is waited for and was not registered before
      refine ⟨hw.generation, by simp [Pending.add], Pending.nodup_add hw.nodup g name, fun x hx => ?_⟩
      rcases Pending.waitsFor_add.1 hx with rfl | hx
      · exact List.mem_append_right _ (List.mem_singleton_self _)
      · exact List.mem_append_left _ (hw.registered x hx)

/-! ## Whom a coordinator tells -/

/-- The coordinators differ only in whom they tell, what is queued, and in who holds them. -/
def Alike (k k' : Coordinator) : Prop :=
  ∃ listeners outbox dispatching handles, k' = { k with listeners, outbox, dispatching, handles }

theorem Alike.refl (k : Coordinator) : k.Alike k := ⟨_, _, _, _, rfl⟩

theorem Alike.trans {k'' : Coordinator} (h : k.Alike k') (h' : k'.Alike k'') : k.Alike k'' := by
  obtain ⟨_, _, _, _, rfl⟩ := h
  obtain ⟨_, _, _, _, rfl⟩ := h'
  exact ⟨_, _, _, _, rfl⟩

theorem Sound.alike (h : k.Sound) (ha : k.Alike k') : k'.Sound := by
  obtain ⟨_, _, _, _, rfl⟩ := ha
  exact ⟨h.pending_iff, h.date_iff, h.published, h.nodup,
    fun p hp => ⟨(h.waits p hp).generation, (h.waits p hp).ne_nil, (h.waits p hp).nodup,
      (h.waits p hp).registered⟩⟩

end Coordinator

end Sluice
