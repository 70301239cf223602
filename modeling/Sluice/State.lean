/-!
# Observable states

* `SuspendState`, `GateState`, `Health`: the states of a coordinator, of a gate, and of the whole as
  a probe sees it, each with its written name.
* `GateStatus`, `Snapshot`: what an operator is shown of one gate and of a coordinator.
-/

namespace Sluice

/-- The state of a coordinator. -/
inductive SuspendState
  | running
  | suspending
  | suspended
  deriving DecidableEq

namespace SuspendState

/-- The written name. -/
def name : SuspendState → String
  | running => "RUNNING"
  | suspending => "SUSPENDING"
  | suspended => "SUSPENDED"

/-- The state of a written name. -/
def ofName? (s : String) : Option SuspendState :=
  [running, suspending, suspended].find? (fun x => x.name = s)

/-- The name in diagnostics. -/
def label : SuspendState → String
  | running => "Running"
  | suspending => "Suspending"
  | suspended => "Suspended"

/-- Whether a suspend has been requested and not undone. -/
def isActive (s : SuspendState) : Bool := s ≠ running

end SuspendState

/-- The state of a gate. -/
inductive GateState
  | running
  | draining
  | drained
  deriving DecidableEq

namespace GateState

/-- The written name. -/
def name : GateState → String
  | running => "RUNNING"
  | draining => "DRAINING"
  | drained => "DRAINED"

/-- The state of a written name. -/
def ofName? (s : String) : Option GateState :=
  [running, draining, drained].find? (fun x => x.name = s)

/-- The name in diagnostics. -/
def label : GateState → String
  | running => "Running"
  | draining => "Draining"
  | drained => "Drained"

end GateState

/-- What a probe is told. -/
inductive Health
  | ready
  | suspending
  | suspended
  deriving DecidableEq

namespace Health

/-- The written name. -/
def name : Health → String
  | ready => "READY"
  | suspending => "SUSPENDING"
  | suspended => "SUSPENDED"

/-- The health of a written name. -/
def ofName? (s : String) : Option Health :=
  [ready, suspending, suspended].find? (fun x => x.name = s)

/-- The name in diagnostics. -/
def label : Health → String
  | ready => "Ready"
  | suspending => "Suspending"
  | suspended => "Suspended"

/-- The health of a coordinator's state. -/
def ofState : SuspendState → Health
  | .running => ready
  | .suspending => suspending
  | .suspended => suspended

end Health

/-- What is shown of a gate. -/
structure GateStatus where
  name : String
  state : GateState
  outstanding : Int
  deriving DecidableEq

/-- What is shown of a coordinator: its gates in the order of their registration, and the names of
those that a suspend still waits for. -/
structure Snapshot where
  state : SuspendState
  generation : Nat
  suspendedAt : Option String
  gates : List GateStatus
  pending : List String
  deriving DecidableEq

/-- The gates that still hold permits. -/
def Snapshot.outstandingGates (s : Snapshot) : List GateStatus :=
  s.gates.filter fun g => 0 < g.outstanding

end Sluice
