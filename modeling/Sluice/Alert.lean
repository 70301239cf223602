import Sluice.Coordinator
import Sluice.Log
import Sluice.Span

/-!
# Alerts

* `Payload`: what a piece of code panics with.
* `DrainError`: a shutdown that did not finish in time.
* `Alert`: what goes into the log, with its `Alert.record`.
-/

namespace Sluice

/-- What a piece of code panics with. -/
inductive Payload
  | text (s : String)
  | other
  deriving DecidableEq

/-- The text of a payload. -/
def Payload.message : Payload → String
  | text s => s
  | other => "non-string panic payload"

/-- A drain that ran out of time, with the names of the gates that it still waited for. -/
structure DrainError where
  timeout : Span
  pending : List String
  deriving DecidableEq

/-- The text of an error. -/
def DrainError.message (e : DrainError) : String :=
  "Timed out after " ++ e.timeout.text ++ " waiting for " ++ toString e.pending.length ++
    " gate(s) to drain"

/-- Something for the log. -/
inductive Alert
  | releasedTwice (gate : String) (permit : PermitId)
  | lostPermit (gate : String) (permit : PermitId) (error : GateError)
  | lostRequest (gate : String) (error : GateError)
  | wrongGate (gate owner : String) (permit : PermitId)
  | wrongTicket (gate : String) (permit : PermitId)
  | registeredTwice (gate : String)
  | registeredBusy (gate : String) (outstanding : Int)
  | listenerPanicked (listener hook : String) (payload : Payload)
  | stillBusy (gate : String) (outstanding : Int)
  | shutdownUnfinished (error : DrainError)
  deriving DecidableEq

/-- The record of an alert. -/
def Alert.record : Alert → Record
  | releasedTwice gate permit =>
    ⟨.error, "Permit released twice - drain accounting left unchanged",
      [("gate", .text gate), ("permit", .text permit.uuid.text)]⟩
  | lostPermit gate permit error =>
    ⟨.error, "Failed to release dropped permit",
      [("gate", .text gate), ("permit", .text permit.uuid.text), ("error", .text error.message)]⟩
  | lostRequest gate error =>
    ⟨.error, "Failed to release request permit",
      [("gate", .text gate), ("error", .text error.message)]⟩
  | wrongGate gate owner permit =>
    ⟨.error, "Permit released through the wrong gate",
      [("gate", .text gate), ("owner", .text owner), ("permit", .text permit.uuid.text)]⟩
  | wrongTicket gate permit =>
    ⟨.error, "Ticket released through the wrong gate",
      [("gate", .text gate), ("permit", .text permit.uuid.text)]⟩
  | registeredTwice gate => ⟨.warn, "Gate already registered", [("gate", .text gate)]⟩
  | registeredBusy gate outstanding =>
    ⟨.warn, "Gate registered while suspended still has work in flight",
      [("gate", .text gate), ("outstanding", .count outstanding)]⟩
  | listenerPanicked listener hook payload =>
    ⟨.warn, "Suspend listener panicked",
      [("listener", .text listener), ("hook", .text hook), ("panic", .text payload.message)]⟩
  | stillBusy gate outstanding =>
    ⟨.warn, "Gate still busy at drain timeout",
      [("gate", .text gate), ("outstanding", .count outstanding)]⟩
  | shutdownUnfinished error =>
    ⟨.warn, "Shutting down with work still in flight", [("error", .text error.message)]⟩

end Sluice
