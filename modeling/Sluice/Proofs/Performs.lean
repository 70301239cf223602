import Sluice.Proofs.Ledger
import Sluice.Proofs.Returns

/-!
# Operations whose hooks call nothing

Code calls operations one after another. The hooks that these enter come back or panic, and have called
nothing.

* `ComesBack`, `Performs`: such hooks and such code. `exists_comesBack_fire`, `exists_comesBack_dispatch`:
  hooks that have been entered can come back.
* `World.Becomes`: one coordinator has changed, and besides it nothing but the journal.
* `Coordinator.hear`: a coordinator and its history once a gate has reported to it. `Coordinator.Heard`:
  what it can be once gates have.
* `dispatch_comesBack`, `fire_hears`, `fire_comesBack`: **what deliveries and callbacks have done when
  their hooks are back**, whichever of these panic.
-/

namespace Sluice

/-- What is neither a gate nor a coordinator, nor written in the journal. -/
def World.remainder (w : World) :
    Table PermitId GateId × Table ServiceId Service × Table DrainId Drain ×
      Table RequestId Admission × Nat × String :=
  (w.issuer, w.services, w.drains, w.waiting, w.clock, w.date)

/-- The world has become one in which a coordinator is this one. Besides, only the journal differs. -/
structure World.Becomes (w : World) (c : CoordinatorId) (k : Coordinator) (w' : World) : Prop where
  gates : w'.gates = w.gates
  remainder : w'.remainder = w.remainder
  coordinators : w'.coordinators = w.coordinators.set c k

/-- What a coordinator can be once gates have reported to it: one that waits for nothing is as it was,
and one that is not running stays so. -/
structure Coordinator.Heard (k k' : Coordinator) : Prop where
  alike : ∃ state pending suspendedAt published version,
    k' = { k with state, pending, suspendedAt, published, version }
  idle : k.pending = none → k' = k
  closed : k.state ≠ .running → k'.state ≠ .running

/-- What a history says of calls that have been made in turn. -/
def callsMade (c : CoordinatorId) (l : List (Hook × Listener)) : List Occurrence :=
  (l.map fun x => .called c x.1 x.2).reverse

/-- What a history says of a suspend that has become complete, when all listeners have been told. -/
def Coordinator.completion (c : CoordinatorId) (k : Coordinator) : List Occurrence :=
  callsMade c (k.listeners.map fun l => (.suspendComplete, l)) ++ [.entered c .suspended k.listeners]

/-- Whether a report counts: it is of the attempt that goes on, from a gate that is waited for. -/
def Coordinator.Awaits (k : Coordinator) (g : GateId) (callback : Option DrainCallback) : Prop :=
  ∃ c n p, callback = some (.report c n) ∧ k.pending = some p ∧ k.isAlive = true ∧ p.generation = n ∧
    p.waitsFor g = true

/-- A coordinator with its history, once a gate has reported to it and all listeners have been told. -/
def Coordinator.hear (c : CoordinatorId) (date : String) (g : GateId) (callback : Option DrainCallback)
    (x : Coordinator × List Occurrence) : Coordinator × List Occurrence :=
  match callback, x.1.pending with
  | some (.report _ n), some p =>
    if x.1.isAlive = true ∧ p.generation = n ∧ p.waitsFor g = true then
      if (p.strike g).gates = [] then
        ({ x.1.completed date with outbox := [], dispatching := false }, x.1.completion c ++ x.2)
      else ({ x.1 with pending := some (p.strike g) }, x.2)
    else x
  | _, _ => x

namespace Coordinator

variable {k k' k'' : Coordinator}

section Hear

variable {c : CoordinatorId} {date : String} {g : GateId} {callback : Option DrainCallback}
  {h : List Occurrence}

/-- A report that does not count changes nothing. -/
theorem hear_eq_self (hk : ¬ k.Awaits g callback) : hear c date g callback (k, h) = (k, h) := by
  unfold hear
  split
  · rename_i d n p hp
    exact if_neg fun hw => hk ⟨d, n, p, rfl, hp, hw⟩
  · rfl

/-- **A report that counts** strikes its gate, and completes the suspend if that was the last. -/
theorem hear_of_awaits {p : Pending} (hk : k.Awaits g callback) (hp : k.pending = some p) :
    hear c date g callback (k, h) =
      if (p.strike g).gates = [] then
        ({ k.completed date with outbox := [], dispatching := false }, k.completion c ++ h)
      else ({ k with pending := some (p.strike g) }, h) := by
  obtain ⟨d, n, q, rfl, hq, hw⟩ := hk
  cases hp.symm.trans hq
  unfold hear
  simp only [hp, hw, and_self, if_true]

theorem hear_cases (c : CoordinatorId) (date : String) (g : GateId) (callback : Option DrainCallback)
    (k : Coordinator) (h : List Occurrence) :
    hear c date g callback (k, h) = (k, h) ∨
      ∃ p, k.pending = some p ∧
        (hear c date g callback (k, h) = ({ k with pending := some (p.strike g) }, h) ∨
          hear c date g callback (k, h) =
            ({ k.completed date with outbox := [], dispatching := false }, k.completion c ++ h)) := by
  by_cases hk : k.Awaits g callback
  · have ⟨_, _, p, _, hp, _⟩ := hk
    refine .inr ⟨p, hp, ?_⟩
    rw [hear_of_awaits hk hp]
    split
    · exact .inr rfl
    · exact .inl rfl
  · exact .inl (hear_eq_self hk)

end Hear

theorem Heard.refl (k : Coordinator) : k.Heard k := ⟨⟨_, _, _, _, _, rfl⟩, fun _ => rfl, id⟩

theorem Heard.trans (h : k.Heard k') (h' : k'.Heard k'') : k.Heard k'' := by
  refine ⟨?_, fun hp => ?_, fun hs => h'.closed (h.closed hs)⟩
  · obtain ⟨_, _, _, _, _, rfl⟩ := h.alike
    obtain ⟨_, _, _, _, _, rfl⟩ := h'.alike
    exact ⟨_, _, _, _, _, rfl⟩
  · have hk : k' = k := h.idle hp
    subst hk
    exact h'.idle hp

theorem Heard.generation (h : k.Heard k') : k'.generation = k.generation := by
  obtain ⟨_, _, _, _, _, rfl⟩ := h.alike
  rfl

theorem delivered_eq (ho : k.outbox = []) (hd : k.dispatching = false) :
    { k with outbox := [], dispatching := false } = k := by
  rw [← ho, ← hd]

/-- A gate reports, and the hooks that this queues are delivered. -/
theorem heard_hear (c : CoordinatorId) (date : String) (g : GateId) (callback : Option DrainCallback)
    (ho : k.outbox = []) (hd : k.dispatching = false) (h : List Occurrence) :
    k.Heard (hear c date g callback (k, h)).1 := by
  rcases hear_cases c date g callback k h with e | ⟨p, hp, e | e⟩ <;> rw [e]
  · exact .refl k
  · exact ⟨⟨_, _, _, _, _, rfl⟩, fun hn => (nomatch hn.symm.trans hp), id⟩
  · refine ⟨⟨.suspended, none, some date, .suspended, k.version + 1, ?_⟩,
      fun hn => (nomatch hn.symm.trans hp), fun _ => nofun⟩
    unfold completed
    rw [notify_eq]
    let l : Coordinator :=
      { k with
        state := .suspended, pending := none, suspendedAt := some date, published := .suspended
        version := k.version + 1 }
    exact delivered_eq (k := l) ho hd

end Coordinator

namespace World

variable {w w' w'' : World} {c : CoordinatorId} {k k' : Coordinator} {g : GateId}

theorem becomes_self (hk : w.coordinators c = some k) : w.Becomes c k w :=
  ⟨rfl, rfl, (Table.set_eq_self hk).symm⟩

theorem becomes_setCoordinator (w : World) (c : CoordinatorId) (k : Coordinator) :
    w.Becomes c k (w.setCoordinator c k) := ⟨rfl, rfl, rfl⟩

theorem Becomes.note (h : w.Becomes c k w') (o : Occurrence) : w.Becomes c k (w'.note o) :=
  ⟨h.gates, h.remainder, h.coordinators⟩

theorem Becomes.trans (h : w.Becomes c k w') (h' : w'.Becomes c k' w'') : w.Becomes c k' w'' := by
  refine ⟨h'.gates.trans h.gates, h'.remainder.trans h.remainder, ?_⟩
  rw [h'.coordinators, h.coordinators, Table.set_set]

theorem Becomes.coordinator (h : w.Becomes c k w') : w'.coordinators c = some k := by
  rw [h.coordinators, Table.set_self]

theorem suspend_remainder (w : World) (c : CoordinatorId) (k : Coordinator) :
    (w.suspend c k).remainder = w.remainder := by
  have hclose (cb : DrainCallback) (v : World) : (v.closeAll cb k.gates).1.remainder = v.remainder := by
    rw [closeAll_eq]
    rfl
  rw [suspend_eq]
  split
  · rw [complete_eq]
    exact hclose _ _
  · exact hclose _ _

theorem resume_remainder (w : World) (c : CoordinatorId) (k : Coordinator) :
    (w.resume c k).remainder = w.remainder := by
  unfold resume
  rw [openAll_eq]
  rfl

end World

namespace Machine

open World

variable {w v : World} {s : List Activation} {c : CoordinatorId} {k : Coordinator} {m m' : Machine}
  {r : Reply} {after : After}

/-- The hooks that run above this code come back or panic, one after another, and call nothing. -/
inductive ComesBack (s : List Activation) : Machine → Machine → Prop
  | back {m : Machine} (hs : m.stack = s) : ComesBack s m m
  | hookReturns {m m' : Machine} {c h l others after} (response : Http.Response)
      (hs : m.stack = .hook c h l others after :: s)
      (hm : ComesBack s (step m (.ret response)) m') : ComesBack s m m'
  | hookPanics {m m' : Machine} {c h l others after} (payload : Payload)
      (hs : m.stack = .hook c h l others after :: s)
      (hm : ComesBack s (step m (.panic payload)) m') : ComesBack s m m'

/-- Code calls these operations in turn, their hooks come back, and this is what they answer. -/
inductive Performs : Machine → List Op → List Reply → Machine → Prop
  | nil {m : Machine} : Performs m [] [] m
  | cons {m m₁ m₂ : Machine} {op : Op} {ops : List Op} {r : Reply} {rs : List Reply}
      (hm : ComesBack m.stack (step m (.call op)) m₁) (hr : m₁.signal = .replied r)
      (hs : Performs m₁ ops rs m₂) : Performs m (op :: ops) (r :: rs) m₂

theorem Performs.append {m₁ m₂ : Machine} {ops more : List Op} {rs rs' : List Reply}
    (h : Performs m ops rs m₁) (h' : Performs m₁ more rs' m₂) :
    Performs m (ops ++ more) (rs ++ rs') m₂ := by
  induction h with
  | nil => exact h'
  | cons hm hr _ ih => exact .cons hm hr (ih h')

theorem Performs.split {ops more : List Op} {rs : List Reply} (h : Performs m (ops ++ more) rs m') :
    ∃ rs₁ rs₂ m₁, rs = rs₁ ++ rs₂ ∧ Performs m ops rs₁ m₁ ∧ Performs m₁ more rs₂ m' := by
  induction ops generalizing m rs with
  | nil => exact ⟨[], rs, m, rfl, .nil, h⟩
  | cons op ops ih =>
    cases h with
    | @cons _ m₁ _ _ _ r rs hm hr hs =>
      obtain ⟨rs₁, rs₂, m₂, rfl, h₁, h₂⟩ := ih hs
      exact ⟨r :: rs₁, rs₂, m₂, rfl, .cons hm hr h₁, h₂⟩

/-- With nothing queued there is nothing to deliver. -/
theorem dispatch_eq_finish (hk : w.coordinators c = some k) (ho : k.outbox = [])
    (hd : k.dispatching = false) : dispatch w s c after = finish w s after := by
  obtain ⟨_, _, _, _, _, _, _, _, _, _, _⟩ := k
  cases ho
  cases hd
  unfold dispatch
  rw [hk]
  simp only [Bool.false_eq_true, if_false]
  unfold deliver
  simp only [setCoordinator_coordinators, Table.set_self]
  -- the flag is set and cleared
  unfold setCoordinator
  simp only [Table.set_set, Table.set_eq_self hk]

/-! ## Hooks can come back -/

/-- The hook of the innermost listener comes back, then those of the others, then the delivery goes
on. -/
theorem exists_comesBack_enterHook
    (hd : ∀ v : World, v.coordinators = w.coordinators → ∃ m, ComesBack s (deliver v s c after) m)
    (h : Hook) (l : Listener) (others : List Listener) :
    ∃ m, ComesBack s (enterHook w s c h l others after) m := by
  induction others generalizing w l with
  | nil =>
    obtain ⟨m, hm⟩ := hd (w.note (.called c h l)) rfl
    exact ⟨m, .hookReturns {} rfl hm⟩
  | cons l' others ih =>
    obtain ⟨m, hm⟩ := ih (w := w.note (.called c h l)) hd l'
    exact ⟨m, .hookReturns {} rfl hm⟩

theorem exists_comesBack_deliver (w : World) (s : List Activation) (c : CoordinatorId)
    (after : After) : ∃ m, ComesBack s (deliver w s c after) m := by
  cases hk : w.coordinators c with
  | none =>
    unfold deliver
    rw [hk]
    exact ⟨_, .back (finish_stack w s after)⟩
  | some k =>
    -- by what is queued: hooks that call nothing queue nothing
    generalize ho : k.outbox = o
    induction o generalizing w k with
    | nil =>
      unfold deliver
      rw [hk]
      simp only [ho]
      exact ⟨_, .back (finish_stack _ s after)⟩
    | cons n rest ih =>
      unfold deliver
      rw [hk]
      simp only [ho]
      refine exists_comesBack_enterHook (fun v hv => ih v { k with outbox := rest } ?_ rfl) _ _ _
      rw [hv, setCoordinator_coordinators, Table.set_self]

theorem exists_comesBack_dispatch (w : World) (s : List Activation) (c : CoordinatorId)
    (after : After) : ∃ m, ComesBack s (dispatch w s c after) m := by
  unfold dispatch
  split
  · exact ⟨_, .back (finish_stack w s after)⟩
  · split
    · exact ⟨_, .back (finish_stack w s after)⟩
    · exact exists_comesBack_deliver _ _ _ _

/-- Only reports are among these callbacks, and to this coordinator. -/
def Reports (c : CoordinatorId) (callback : Option DrainCallback) : Prop :=
  ∀ cb, callback = some cb → ∃ n, cb = .report c n

theorem exists_comesBack_fire {callback : Option DrainCallback} (h : Reports c callback) (w : World)
    (s : List Activation) (g : GateId) (after : After) :
    ∃ m, ComesBack s (fire w s g callback after) m := by
  rcases fire_cases w s g callback after with
    ⟨e, -⟩ | ⟨cb, hcb, ⟨code, rfl, -⟩ | ⟨d, n, k, -, -, -, e⟩ | ⟨d, n, -, -, e⟩⟩
  · rw [e]
    exact ⟨_, .back (finish_stack w s after)⟩
  · obtain ⟨n, hn⟩ := h _ hcb
    cases hn
  · rw [e]
    exact exists_comesBack_dispatch _ _ _ _
  · rw [e]
    exact ⟨_, .back (finish_stack _ s after)⟩

/-! ## What has happened then -/

/-- The operation has answered and its hooks have been delivered, or one of them is running and the rest
will come to this history. -/
def Delivering (w : World) (s : List Activation) (c : CoordinatorId) (k : Coordinator)
    (history : List Occurrence) (r : Reply) (m : Machine) : Prop :=
  (∃ v, m = ⟨v, s, .replied r⟩ ∧ w.Becomes c { k with outbox := [], dispatching := false } v ∧
      v.history c = history) ∨
    ∃ v h l others o, m = ⟨v, .hook c h l others (.reply r) :: s, .entered⟩ ∧
      w.Becomes c { k with outbox := o, dispatching := true } v ∧
      callsMade c (others.map (h, ·) ++ o.flatMap Notification.calls) ++ v.history c = history

theorem callsMade_cons (c : CoordinatorId) (x : Hook × Listener) (l : List (Hook × Listener))
    (h : List Occurrence) :
    callsMade c (x :: l) ++ h = callsMade c l ++ .called c x.1 x.2 :: h := by
  unfold callsMade
  rw [List.map_cons, List.reverse_cons, List.append_assoc]
  rfl

theorem enterHook_history (w : World) (c : CoordinatorId) (h : Hook) (l : Listener)
    (others : List Listener) (after : After) :
    (enterHook w s c h l others after).world.history c = .called c h l :: w.history c := by
  simp [enterHook, history_note, Occurrence.concerns]

variable {history : List Occurrence} {o : List Notification}

theorem delivering_deliver (hv : w.Becomes c { k with outbox := o, dispatching := true } v)
    (hh : callsMade c (o.flatMap Notification.calls) ++ v.history c = history) :
    Delivering w s c k history r (deliver v s c (.reply r)) := by
  unfold deliver
  rw [hv.coordinator]
  cases o with
  | nil => exact .inl ⟨_, rfl, hv.trans (becomes_setCoordinator _ _ _), hh⟩
  | cons n rest =>
    refine .inr ⟨_, _, _, _, rest, rfl, (hv.trans (becomes_setCoordinator _ _ _)).note _, ?_⟩
    -- the first call of the notification is the next that is made
    have hcalls : (n :: rest).flatMap Notification.calls =
        (n.hook, n.first) :: (n.others.map (n.hook, ·) ++ rest.flatMap Notification.calls) := rfl
    rw [hcalls, callsMade_cons] at hh
    have hnote := enterHook_history (s := s) (v.setCoordinator c { k with outbox := rest, dispatching := true })
      c n.hook n.first n.others (.reply r)
    rw [← hh]
    exact congrArg _ hnote

theorem delivering_nextHook (hv : w.Becomes c { k with outbox := o, dispatching := true } v) (h : Hook)
    (others : List Listener)
    (hh : callsMade c (others.map (h, ·) ++ o.flatMap Notification.calls) ++ v.history c = history) :
    Delivering w s c k history r (nextHook v s c h others (.reply r)) := by
  cases others with
  | nil => exact delivering_deliver hv hh
  | cons l ls =>
    refine .inr ⟨_, _, _, _, o, rfl, hv.note _, ?_⟩
    rw [List.map_cons, List.cons_append, callsMade_cons] at hh
    have hnote := enterHook_history (s := s) v c h l ls (.reply r)
    rw [← hh]
    exact congrArg _ hnote

theorem Delivering.comesBack (h : Delivering w s c k history r m) (hm : ComesBack s m m') :
    m'.stack = s ∧ m'.signal = .replied r ∧
      w.Becomes c { k with outbox := [], dispatching := false } m'.world ∧
      m'.world.history c = history := by
  induction hm with
  | back hs =>
    rcases h with ⟨v, rfl, hv, hh⟩ | ⟨v, _, _, _, _, rfl, -⟩
    · exact ⟨rfl, rfl, hv, hh⟩
    · exact absurd hs (List.cons_ne_self _ _)
  | hookReturns response hs _ ih =>
    refine ih ?_
    rcases h with ⟨v, rfl, -⟩ | ⟨v, hook, _, others, o, rfl, hv, hh⟩
    · exact absurd hs.symm (List.cons_ne_self _ _)
    · exact delivering_nextHook hv hook others hh
  | hookPanics payload hs _ ih =>
    refine ih ?_
    rcases h with ⟨v, rfl, -⟩ | ⟨v, hook, l, others, o, rfl, hv, hh⟩
    · exact absurd hs.symm (List.cons_ne_self _ _)
    · -- the panic goes to the log, and the delivery goes on
      refine delivering_nextHook (v := v.alert _) (hv.note _) hook others ?_
      rwa [alert_history]

/-- **Once the hooks of a delivery are back**, the operation has answered, and nothing else has
happened than that the queue is empty and the calls in it have been made. -/
theorem dispatch_comesBack (hk : w.coordinators c = some k) (hd : k.dispatching = false)
    (hm : ComesBack s (dispatch w s c (.reply r)) m) :
    m.stack = s ∧ m.signal = .replied r ∧
      w.Becomes c { k with outbox := [], dispatching := false } m.world ∧
      m.world.history c = callsMade c (k.outbox.flatMap Notification.calls) ++ w.history c := by
  refine Delivering.comesBack ?_ hm
  unfold dispatch
  rw [hk]
  simp only [hd, Bool.false_eq_true, if_false]
  exact delivering_deliver (o := k.outbox) (becomes_setCoordinator _ _ _) rfl

/-- An operation that has answered has come back. -/
theorem ComesBack.reply (hm : ComesBack s (reply w s r) m) : m = Machine.reply w s r := by
  cases hm with
  | back _ => rfl
  | hookReturns _ hs _ => exact absurd hs.symm (List.cons_ne_self _ _)
  | hookPanics _ hs _ => exact absurd hs.symm (List.cons_ne_self _ _)

/-- A gate that is waited for is struck, and the hooks that this queues are back. -/
theorem strike_hears {g : GateId} {n : Nat} {p : Pending} (ho : k.outbox = [])
    (hd : k.dispatching = false) (hp : k.pending = some p)
    (hw : k.isAlive = true ∧ p.generation = n ∧ p.waitsFor g = true)
    (hm : ComesBack s (dispatch (w.strike c k g) s c (.reply r)) m) :
    m.stack = s ∧ m.signal = .replied r ∧
      w.Becomes c (Coordinator.hear c w.date g (some (.report c n)) (k, w.history c)).1 m.world ∧
      m.world.history c = (Coordinator.hear c w.date g (some (.report c n)) (k, w.history c)).2 := by
  rw [Coordinator.hear_of_awaits ⟨c, n, p, rfl, hp, hw⟩ hp]
  unfold World.strike at hm
  simp only [hp, hw, if_true, List.isEmpty_iff] at hm
  by_cases hlast : (p.strike g).gates = []
  · -- the listeners of the moment are told that the suspend is complete
    rw [if_pos hlast, complete_eq] at hm
    rw [if_pos hlast]
    set v : World := (w.setCoordinator c (k.completed w.date)).note (.entered c .suspended k.listeners)
    have hv : v.coordinators c = some (k.completed w.date) := Table.set_self _ _ _
    have hdv : (k.completed w.date).dispatching = false := by rw [Coordinator.completed_dispatching, hd]
    obtain ⟨hs, ha, hb, hh⟩ := dispatch_comesBack hv hdv hm
    refine ⟨hs, ha, ((becomes_setCoordinator w c _).note _).trans hb, ?_⟩
    have hcalls : (k.completed w.date).outbox.flatMap Notification.calls =
        k.listeners.map fun l => (.suspendComplete, l) := by
      unfold Coordinator.completed Coordinator.setState
      rw [notify_calls, ho]
      rfl
    rw [hh, hcalls]
    unfold Coordinator.completion
    simp [v, history_note, Occurrence.concerns]
  · rw [if_neg hlast] at hm
    rw [if_neg hlast]
    set k' : Coordinator := { k with pending := some (p.strike g) }
    have hk' : { k' with outbox := [], dispatching := false } = k' := Coordinator.delivered_eq ho hd
    obtain ⟨hs, ha, hb, hh⟩ := dispatch_comesBack (k := k') (Table.set_self _ _ _) hd hm
    rw [hk'] at hb
    have ho' : k'.outbox = [] := ho
    rw [ho'] at hh
    exact ⟨hs, ha, (becomes_setCoordinator w c k').trans hb, hh⟩

/-- A report of another attempt, or from a gate that is not waited for, changes nothing. -/
theorem drained_idle {g : GateId} {n : Nat} (hk : w.coordinators c = some k)
    (hw : ∀ p, k.pending = some p → p.generation = n → p.waitsFor g ≠ true) :
    w.Becomes c k (w.drained c k n g) ∧ (w.drained c k n g).history c = w.history c := by
  rcases drained_cases w c k n g with ⟨e, p, hp, hn⟩ | ⟨e, -⟩ <;> rw [e]
  · have hstrike : w.strike c k g = w.setCoordinator c k := by
      unfold World.strike
      simp only [hp, if_neg (hw p hp hn)]
    rw [hstrike]
    exact ⟨becomes_setCoordinator w c k, rfl⟩
  · exact ⟨becomes_self hk, rfl⟩

/-- A report arrives, and the hooks that this queues are back. -/
theorem drained_hears {g : GateId} {n : Nat} (hk : w.coordinators c = some k) (ho : k.outbox = [])
    (hd : k.dispatching = false) (halive : k.isAlive = true)
    (hm : ComesBack s (dispatch (w.drained c k n g) s c (.reply r)) m) :
    m.stack = s ∧ m.signal = .replied r ∧
      w.Becomes c (Coordinator.hear c w.date g (some (.report c n)) (k, w.history c)).1 m.world ∧
      m.world.history c = (Coordinator.hear c w.date g (some (.report c n)) (k, w.history c)).2 := by
  by_cases hw : ∃ p, k.pending = some p ∧ p.generation = n ∧ p.waitsFor g = true
  · obtain ⟨p, hp, hn, hw⟩ := hw
    have hdrained : w.drained c k n g = w.strike c k g := by
      unfold World.drained
      simp only [hp, hn, if_true]
    rw [hdrained] at hm
    exact strike_hears ho hd hp ⟨halive, hn, hw⟩ hm
  · have hnot : ¬ k.Awaits g (some (.report c n)) := by
      rintro ⟨d, n', p, hcb, hp, -, hw'⟩
      cases hcb
      exact hw ⟨p, hp, hw'⟩
    have ⟨hv, hvh⟩ : w.Becomes c k (w.drained c k n g) ∧
        (w.drained c k n g).history c = w.history c :=
      drained_idle hk fun p hp hn hw' => hw ⟨p, hp, hn, hw'⟩
    obtain ⟨hs, ha, hb, hh⟩ := dispatch_comesBack hv.coordinator hd hm
    rw [Coordinator.delivered_eq ho hd] at hb
    rw [ho, hvh] at hh
    rw [Coordinator.hear_eq_self hnot]
    exact ⟨hs, ha, hv.trans hb, hh⟩

/-- **Once the hooks of a callback are back**, the operation has answered, and nothing else has happened
than that the coordinator has heard of the gate. -/
theorem fire_hears {g : GateId} {callback : Option DrainCallback} (h : Reports c callback)
    (hk : w.coordinators c = some k) (ho : k.outbox = []) (hd : k.dispatching = false)
    (hm : ComesBack s (fire w s g callback (.reply r)) m) :
    m.stack = s ∧ m.signal = .replied r ∧
      w.Becomes c (Coordinator.hear c w.date g callback (k, w.history c)).1 m.world ∧
      m.world.history c = (Coordinator.hear c w.date g callback (k, w.history c)).2 := by
  have hu (cb : DrainCallback) : w.Becomes c k (w.note (.fired g cb)) := (becomes_self hk).note _
  have huh (cb : DrainCallback) : (w.note (.fired g cb)).history c = w.history c := by
    simp [history_note, Occurrence.concerns]
  rcases fire_cases w s g callback (.reply r) with
    ⟨e, rfl⟩ | ⟨cb, hcb, ⟨code, rfl, -⟩ | ⟨d, n, l, rfl, hl, halive, e⟩ | ⟨d, n, rfl, hdead, e⟩⟩
  · rw [e] at hm
    rw [hm.reply]
    exact ⟨rfl, rfl, becomes_self hk, rfl⟩
  · obtain ⟨n, hn⟩ := h _ hcb
    cases hn
  · obtain ⟨n', hn⟩ := h _ hcb
    cases hn
    cases hk.symm.trans hl
    subst hcb
    rw [e] at hm
    obtain ⟨hs, ha, hb, hh⟩ := drained_hears (hu (.report c n)).coordinator ho hd halive hm
    rw [huh] at hb hh
    exact ⟨hs, ha, (hu _).trans hb, hh⟩
  · obtain ⟨n', hn⟩ := h _ hcb
    cases hn
    subst hcb
    -- nobody holds the coordinator any more
    have hnot : ¬ k.Awaits g (some (.report c n)) := by
      rintro ⟨_, _, _, -, -, halive, -⟩
      cases (hdead k hk).symm.trans halive
    rw [e] at hm
    rw [hm.reply, Coordinator.hear_eq_self hnot]
    exact ⟨rfl, rfl, hu _, huh _⟩

/-- The coordinator has heard of the gate, whatever the report was. -/
theorem fire_comesBack {g : GateId} {callback : Option DrainCallback} (h : Reports c callback)
    (hk : w.coordinators c = some k) (ho : k.outbox = []) (hd : k.dispatching = false)
    (hm : ComesBack s (fire w s g callback (.reply r)) m) :
    m.stack = s ∧ m.signal = .replied r ∧ ∃ k', w.Becomes c k' m.world ∧ k.Heard k' := by
  obtain ⟨hs, ha, hb, -⟩ := fire_hears h hk ho hd hm
  exact ⟨hs, ha, _, hb, Coordinator.heard_hear c w.date g callback ho hd (w.history c)⟩

end Machine

end Sluice
