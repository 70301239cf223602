import Sluice.Permit
import Sluice.State

/-!
# Gates

A gate counts the work that it has let in. While it drains it lets nothing in, and with the last
permit that comes back it is drained and hands its callback out.

* `Gate`: the gate, `DrainCallback`: what is to happen once it is drained.
* `Gate.letIn`, `Gate.turnAway`, `Gate.release?`, `Gate.beginDrain`, `Gate.reopen`: the operations. They
  run no callback: whoever calls them runs the one that they hand out.
-/

namespace Sluice

/-- The identity of a coordinator. -/
structure CoordinatorId where
  index : Nat
  deriving DecidableEq

/-- The name of a piece of code that a caller has handed in. -/
structure CodeId where
  index : Nat
  deriving DecidableEq

/-- What is to happen once a gate is drained. -/
inductive DrainCallback
  /-- The coordinator is told, under the generation in which it closed the gate. -/
  | report (coordinator : CoordinatorId) (generation : Nat)
  /-- A caller's code runs. -/
  | run (code : CodeId)
  deriving DecidableEq

/-- An admission point for work. -/
structure Gate where
  name : String
  state : GateState := .running
  outstanding : Int := 0
  permits : List PermitId := []
  callback : Option DrainCallback := none
  deriving DecidableEq

namespace Gate

/-- What is shown of a gate. -/
def status (g : Gate) : GateStatus := ⟨g.name, g.state, g.outstanding⟩

/-- Whether a gate lets work in. -/
def isOpen (g : Gate) : Bool := g.state = .running

/-- A draining gate on which nothing is outstanding is drained, and its callback is handed out. -/
def completeDrain (g : Gate) : Gate × Option DrainCallback :=
  if g.state = .draining ∧ g.outstanding = 0 then
    ({ g with state := .drained, callback := none }, g.callback)
  else (g, none)

/-- Lets work in under a new permit. -/
def letIn (g : Gate) (p : PermitId) : Gate :=
  { g with outstanding := g.outstanding + 1, permits := p :: g.permits }

/-- Turns work away: it has been counted for a moment, so a drain may turn out to be complete. -/
def turnAway (g : Gate) : Gate × Option DrainCallback :=
  if g.outstanding = 0 then g.completeDrain else (g, none)

/-- Takes a permit back, if it is out. -/
def release? (g : Gate) (p : PermitId) : Option (Gate × Option DrainCallback) :=
  if p ∈ g.permits then
    let g := { g with outstanding := g.outstanding - 1, permits := g.permits.erase p }
    if g.outstanding = 0 ∧ g.state ≠ .running then some g.completeDrain else some (g, none)
  else none

/-- Lets no more work in. With nothing outstanding the gate is drained at once and the callback is
not kept. -/
def beginDrain (g : Gate) (callback : DrainCallback) : Gate :=
  if g.outstanding = 0 then { g with state := .drained, callback := none }
  else { g with state := .draining, callback := some callback }

/-- Lets work in again and forgets the callback. -/
def reopen (g : Gate) : Gate := { g with state := .running, callback := none }

/-- The text for diagnostics. -/
def text (g : Gate) (id : GateId) : String :=
  "QuiescenceGate \x7b id: GateId(" ++ id.uuid.text ++ "), name: " ++ quoted g.name ++ ", state: " ++
    g.state.label ++ ", outstanding: " ++ toString g.outstanding ++ " \x7d"

end Gate

end Sluice
