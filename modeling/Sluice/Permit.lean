import Sluice.Text.Quoted
import Sluice.Uuid

/-!
# Permits

* `GateId`, `PermitId`: the identities of gates and of the permits that they issue.
* `Permit`: one unit of work that a gate has let in. `Ticket`: a permit detached from its holder.
* `GateError`: why a gate refuses, with `GateError.message`.
-/

namespace Sluice

/-- The identity of a gate. -/
structure GateId where
  uuid : Uuid
  deriving DecidableEq

/-- The identity of a permit. -/
structure PermitId where
  uuid : Uuid
  deriving DecidableEq

/-- A unit of work in flight, and the gate that issued it. -/
structure Permit where
  id : PermitId
  gate : GateId
  deriving DecidableEq

/-- A reference to a permit, for work whose end is reported by someone else. -/
structure Ticket where
  permit : PermitId
  gate : GateId
  deriving DecidableEq

/-- The ticket of a permit. -/
def Permit.ticket (p : Permit) : Ticket := ⟨p.id, p.gate⟩

/-- The text for diagnostics, with the name of the gate. -/
def Permit.text (p : Permit) (gate : String) : String :=
  "Permit \x7b id: PermitId(" ++ p.id.uuid.text ++ "), gate: " ++ quoted gate ++ " \x7d"

/-- Why a gate refuses, with the name of the gate. -/
inductive GateError
  | draining (gate : String)
  | doubleRelease (gate : String) (permit : PermitId)
  | wrongGate (gate : String) (permit : PermitId)
  deriving DecidableEq

namespace GateError

/-- The text of an error. -/
def message : GateError → String
  | draining gate => "Gate '" ++ gate ++ "' is draining and not admitting new work"
  | doubleRelease gate permit =>
    "Permit " ++ permit.uuid.text ++ " released twice on gate '" ++ gate ++ "'"
  | wrongGate gate permit =>
    "Permit " ++ permit.uuid.text ++ " was not issued by gate '" ++ gate ++ "'"

/-- A caller that does nothing wrong can only be told that the gate is draining. -/
def isRecoverable : GateError → Bool
  | draining _ => true
  | _ => false

end GateError

end Sluice
