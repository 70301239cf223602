import Mathlib.Computability.Language
import Mathlib.Data.List.Induction
import Sluice.Proofs.World

/-!
# What is due to listeners

The history of a coordinator, newest first, is read by scans that know nothing of queues and
deliveries. A coordinator keeps its books if these agree with the scans.

* `transitions`, `calls`, `subscribers`: the states that were entered, the hook calls that were made, and
  who is subscribed.
* `due`: the hook calls that have to be made: for each transition one for each listener that was
  subscribed then.
* `undone`, `underWay`: the transitions of an attempt to suspend that is over, and of one that is not.
* `Ledger`: the books of a coordinator, of which some calls are still owed by a delivery. Each transition
  keeps them, if its hook is queued (`Ledger.closing`, `Ledger.completed`, `Ledger.reopening`).
-/

namespace Sluice

open Computability

/-- The hook that tells of a state. -/
def Hook.of : SuspendState → Hook
  | .running => .resumed
  | .suspending => .suspendStarted
  | .suspended => .suspendComplete

/-- The calls that a notification stands for. -/
def Notification.calls (n : Notification) : List (Hook × Listener) :=
  (n.first :: n.others).map fun l => (n.hook, l)

/-! ## Scans of a history -/

/-- The states that were entered, oldest first. -/
def transitions : List Occurrence → List SuspendState
  | [] => []
  | .entered _ s _ :: h => transitions h ++ [s]
  | _ :: h => transitions h

/-- What has been entered stays, and what is entered later comes after it. -/
theorem transitions_append (new h : List Occurrence) :
    transitions (new ++ h) = transitions h ++ transitions new := by
  induction new with
  | nil => simp [transitions]
  | cons o new ih => cases o <;> simp [transitions, ih]

/-- The hook calls that were made, oldest first. -/
def calls : List Occurrence → List (Hook × Listener)
  | [] => []
  | .called _ k l :: h => calls h ++ [(k, l)]
  | _ :: h => calls h

theorem calls_append (new h : List Occurrence) : calls (new ++ h) = calls h ++ calls new := by
  induction new with
  | nil => simp [calls]
  | cons o new ih => cases o <;> simp [calls, ih]

/-- The listeners that are subscribed, once for each time that they subscribed, in that order. -/
def subscribers : List Occurrence → List Listener
  | [] => []
  | .offered _ l _ true :: h => subscribers h ++ [l]
  | .unsubscribed _ l :: h => (subscribers h).filter fun x => x.id ≠ l
  | _ :: h => subscribers h

/-- The hook calls that each transition makes due, oldest first. -/
def due : List Occurrence → List (Hook × Listener)
  | [] => []
  | .entered _ s _ :: h => due h ++ (subscribers h).map fun l => (Hook.of s, l)
  | _ :: h => due h

/-! ## The order of transitions -/

/-- An attempt to suspend that has been undone, before or after it was complete. -/
def undone : Language SuspendState :=
  {[.suspending, .running], [.suspending, .suspended, .running]}

/-- An attempt to suspend that goes on or is complete, or none. -/
def underWay : Language SuspendState := {[], [.suspending], [.suspending, .suspended]}

/-- The transitions that lead to a state. -/
def LeadTo : SuspendState → List SuspendState → Prop
  | .running, t => t ∈ undone∗
  | .suspending, t => ∃ u ∈ undone∗, t = u ++ [.suspending]
  | .suspended, t => ∃ u ∈ undone∗, t = u ++ [.suspending, .suspended]

section LeadTo

variable {s : SuspendState} {t u v : List SuspendState}

theorem append_mem_undone (hu : u ∈ undone∗) (hv : v ∈ undone) : u ++ v ∈ undone∗ := by
  have hle : undone∗ * undone ≤ undone∗ := kstar_mul_le_kstar
  exact hle (Language.append_mem_mul hu hv)

/-- **Attempts follow each other**, each undone but perhaps the last. -/
theorem LeadTo.mem (h : LeadTo s t) : t ∈ undone∗ * underWay := by
  cases s with
  | running =>
    have hnil : ([] : List SuspendState) ∈ underWay := .inl rfl
    have hm := Language.append_mem_mul h hnil
    rwa [List.append_nil] at hm
  | suspending =>
    obtain ⟨u, hu, rfl⟩ := h
    exact Language.append_mem_mul hu (.inr (.inl rfl))
  | suspended =>
    obtain ⟨u, hu, rfl⟩ := h
    exact Language.append_mem_mul hu (.inr (.inr rfl))

theorem last_of_mem_undone (h : t ∈ undone∗) : t.getLast?.getD .running = .running := by
  obtain ⟨l, rfl, hl⟩ := Language.mem_kstar.1 h
  -- only the last attempt counts
  induction l using List.reverseRecOn with
  | nil => rfl
  | append_singleton l v _ =>
    rw [List.flatten_append, List.flatten_singleton]
    rcases hl v (by simp) with rfl | rfl <;> simp

/-- The last transition is into the state that it leads to. -/
theorem LeadTo.last (h : LeadTo s t) : t.getLast?.getD .running = s := by
  cases s with
  | running => exact last_of_mem_undone h
  | suspending =>
    obtain ⟨u, -, rfl⟩ := h
    simp
  | suspended =>
    obtain ⟨u, -, rfl⟩ := h
    simp

theorem LeadTo.closing (h : LeadTo .running t) : LeadTo .suspending (t ++ [.suspending]) := ⟨t, h, rfl⟩

theorem LeadTo.completed (h : LeadTo .suspending t) : LeadTo .suspended (t ++ [.suspended]) := by
  obtain ⟨u, hu, rfl⟩ := h
  exact ⟨u, hu, by rw [List.append_assoc]; rfl⟩

theorem LeadTo.reopening (h : LeadTo s t) (hs : s ≠ .running) : LeadTo .running (t ++ [.running]) := by
  cases s with
  | running => exact absurd rfl hs
  | suspending =>
    obtain ⟨u, hu, rfl⟩ := h
    rw [List.append_assoc]
    exact append_mem_undone hu (.inl rfl)
  | suspended =>
    obtain ⟨u, hu, rfl⟩ := h
    rw [List.append_assoc]
    exact append_mem_undone hu (.inr rfl)

end LeadTo

/-! ## Books -/

/-- The books of a coordinator fit its history. Of the calls that are due some have been made, a delivery
owes some, and the others are queued. -/
structure Ledger (h : List Occurrence) (k : Coordinator) (owed : List (Hook × Listener)) : Prop where
  listeners : subscribers h = k.listeners
  version : k.version = (transitions h).length
  order : LeadTo k.published (transitions h)
  due : due h = calls h ++ (owed ++ k.outbox.flatMap Notification.calls)

section Ledger

variable {h : List Occurrence} {k k' : Coordinator} {owed : List (Hook × Listener)}
  {c : CoordinatorId} {l : Listener} {s : SuspendState} {audience : List Listener}

theorem ledger_new : Ledger [] {} [] := ⟨rfl, rfl, Language.nil_mem_kstar _, rfl⟩

/-- To queue a hook makes one call due for each listener. -/
theorem notify_calls (k : Coordinator) (x : Hook) :
    (k.notify x).outbox.flatMap Notification.calls =
      k.outbox.flatMap Notification.calls ++ k.listeners.map fun l => (x, l) := by
  unfold Coordinator.notify
  cases hl : k.listeners with
  | nil => simp
  | cons l ls => simp [List.flatMap_append, Notification.calls]

/-- **A transition is entered in the books** if its hook is queued. -/
theorem Ledger.enter (hb : Ledger h k owed) (ho : LeadTo s (transitions h ++ [s]))
    (hl : k'.listeners = k.listeners) (hv : k'.version = k.version + 1) (hp : k'.published = s)
    (hq : k'.outbox = (k.notify (.of s)).outbox) : Ledger (.entered c s audience :: h) k' owed := by
  refine ⟨hb.listeners.trans hl.symm, ?_, ?_, ?_⟩
  · rw [hv, hb.version]
    simp [transitions]
  · rw [hp]
    exact ho
  · -- what has become due is what has been queued
    simp only [Sluice.due, Sluice.calls]
    rw [hq, notify_calls, hb.due, hb.listeners]
    simp only [List.append_assoc]

/-- Queues agree for coordinators that have the same queue and the same listeners. -/
theorem notify_outbox_congr {x : Hook} (hl : k'.listeners = k.listeners)
    (ho : k'.outbox = k.outbox) : (k'.notify x).outbox = (k.notify x).outbox := by
  unfold Coordinator.notify
  rw [hl]
  split
  · exact ho
  · rw [ho]

theorem Ledger.closing (hb : Ledger h k owed) (hs : k.published = .running) :
    Ledger (.entered c .suspending audience :: h) k.closing owed := by
  have ho : LeadTo .suspending (transitions h ++ [.suspending]) := (hs ▸ hb.order).closing
  refine hb.enter ho ?_ ?_ rfl ?_
  · simp [Coordinator.closing, Coordinator.setState]
  · simp [Coordinator.closing, Coordinator.setState]
  · exact notify_outbox_congr rfl rfl

theorem Ledger.completed (hb : Ledger h k owed) (hs : k.published = .suspending) (date : String) :
    Ledger (.entered c .suspended audience :: h) (k.completed date) owed := by
  have ho : LeadTo .suspended (transitions h ++ [.suspended]) := (hs ▸ hb.order).completed
  refine hb.enter ho ?_ ?_ rfl ?_
  · simp [Coordinator.completed, Coordinator.setState]
  · simp [Coordinator.completed, Coordinator.setState]
  · exact notify_outbox_congr rfl rfl

theorem Ledger.reopening (hb : Ledger h k owed) (hs : k.published ≠ .running) :
    Ledger (.entered c .running audience :: h) k.reopening owed := by
  refine hb.enter (hb.order.reopening hs) ?_ ?_ rfl ?_
  · simp [Coordinator.reopening, Coordinator.setState]
  · simp [Coordinator.reopening, Coordinator.setState]
  · exact notify_outbox_congr rfl rfl

theorem Ledger.subscribe (hb : Ledger h k owed) (s : SuspendState) :
    Ledger (.offered c l s true :: h) { k with listeners := k.listeners ++ [l] } owed :=
  ⟨congrArg (· ++ [l]) hb.listeners, hb.version, hb.order, hb.due⟩

theorem Ledger.unsubscribe (hb : Ledger h k owed) (l : ListenerId) :
    Ledger (.unsubscribed c l :: h) { k with listeners := k.listeners.filter fun x => x.id ≠ l } owed :=
  ⟨congrArg (List.filter fun x : Listener => x.id ≠ l) hb.listeners, hb.version, hb.order, hb.due⟩

theorem Ledger.decline (hb : Ledger h k owed) (s : SuspendState) :
    Ledger (.offered c l s false :: h) k owed :=
  ⟨hb.listeners, hb.version, hb.order, hb.due⟩

/-- The first call that is owed is made. -/
theorem Ledger.call {x : Hook} (hb : Ledger h k ((x, l) :: owed)) :
    Ledger (.called c x l :: h) k owed := by
  refine ⟨hb.listeners, hb.version, hb.order, ?_⟩
  simp only [Sluice.due, Sluice.calls]
  rw [hb.due]
  simp

end Ledger

end Sluice
