import Sluice.Gate

/-!
# Coordinators

A coordinator takes its gates through suspend and resume. What is here concerns a coordinator alone;
`World` opens and closes the gates.

* `Coordinator`: its state, the gates that a suspend still waits for, the listeners, and the hook
  calls that are queued for them.
* `Coordinator.setState`: every state that is set is published and counts as a change.
* `Coordinator.notify`: queues a hook for the listeners of the moment.
* `Pending.strike`, `Pending.add`: a gate is no longer, or from now on, waited for.
-/

namespace Sluice

/-- What a listener is told. -/
inductive Hook
  | suspendStarted
  | suspendComplete
  | resumed
  deriving DecidableEq

/-- The written name of a hook. -/
def Hook.name : Hook → String
  | suspendStarted => "suspend_started"
  | suspendComplete => "suspend_complete"
  | resumed => "resumed"

/-- The identity of a listener. -/
structure ListenerId where
  index : Nat
  deriving DecidableEq

/-- A listener, with the name that stands for it in the log. -/
structure Listener where
  id : ListenerId
  name : String
  deriving DecidableEq

/-- A hook that is to be called, with the listeners that were subscribed when it was queued: there is
at least one. -/
structure Notification where
  hook : Hook
  first : Listener
  others : List Listener
  deriving DecidableEq

/-- The gates that a suspend waits for, with their names. -/
structure Pending where
  generation : Nat
  gates : List (GateId × String)
  deriving DecidableEq

namespace Pending

/-- Whether a gate is waited for. -/
def waitsFor (p : Pending) (g : GateId) : Bool := p.gates.any fun x => x.1 = g

/-- Waits for a gate no longer. -/
def strike (p : Pending) (g : GateId) : Pending :=
  { p with gates := p.gates.filter fun x => x.1 ≠ g }

/-- Waits for a gate, too. -/
def add (p : Pending) (g : GateId) (name : String) : Pending :=
  { p with gates := (g, name) :: (p.strike g).gates }

end Pending

/-- A coordinator. -/
structure Coordinator where
  state : SuspendState := .running
  /-- How many suspends and resumes there have been. -/
  generation : Nat := 0
  gates : List GateId := []
  listeners : List Listener := []
  pending : Option Pending := none
  suspendedAt : Option String := none
  /-- The hooks that are queued, oldest first. -/
  outbox : List Notification := []
  /-- Whether queued hooks are being delivered. -/
  dispatching : Bool := false
  /-- The state that watchers see, and how often it has been set. -/
  published : SuspendState := .running
  version : Nat := 0
  /-- How many holders there are. -/
  handles : Nat := 1
  deriving DecidableEq

namespace Coordinator

/-- Whether somebody still holds the coordinator: a delivery holds it, too. -/
def isAlive (k : Coordinator) : Bool := 0 < k.handles || k.dispatching

/-- Sets the state and publishes it. -/
def setState (k : Coordinator) (s : SuspendState) : Coordinator :=
  { k with state := s, published := s, version := k.version + 1 }

/-- Queues a hook for the listeners of the moment. -/
def notify (k : Coordinator) (h : Hook) : Coordinator :=
  match k.listeners with
  | [] => k
  | l :: ls => { k with outbox := k.outbox ++ [⟨h, l, ls⟩] }

/-- The names of the gates that a suspend waits for, in order. -/
def pendingNames (k : Coordinator) : List String :=
  match k.pending with
  | none => []
  | some p => (p.gates.map Prod.snd).mergeSort fun a b => decide (a ≤ b)

/-- The text for diagnostics. -/
def text (k : Coordinator) : String :=
  "SuspendCoordinator \x7b state: " ++ k.state.label ++ ", generation: " ++ toString k.generation ++
    ", gates: " ++ toString k.gates.length ++ ", listeners: " ++ toString k.listeners.length ++ " \x7d"

end Coordinator

end Sluice
