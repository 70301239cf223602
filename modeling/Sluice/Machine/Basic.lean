import Sluice.Http.Route

/-!
# The machine

Operations may have to run code of their callers: the callback of a drained gate, the hooks of a
coordinator's listeners, the handler of a request. That code may call operations in its turn. A state
of the machine is therefore the world together with the code that is running in it, innermost first,
and what each piece of it is to go on with. The code itself is outside: it makes the moves.

* `Machine`, `Activation`, `After`: the state. `Signal`: what the last move has led to.
* `Op`, `Reply`: what can be called, and what comes back.
-/

namespace Sluice

open Http

/-- What a listener makes of the state that it is offered. -/
inductive Offer
  | accept
  | decline
  | panic (payload : Payload)
  deriving DecidableEq

/-- What can be called. -/
inductive Op
  | newGate (g : GateId) (name : String)
  | acquire (g : GateId) (p : PermitId)
  | release (p : Permit)
  | releaseVia (g : GateId) (p : Permit)
  | drop (p : Permit)
  | releaseTicket (g : GateId) (t : Ticket)
  | beginDrain (g : GateId) (code : CodeId)
  | reopen (g : GateId)
  | newCoordinator (c : CoordinatorId)
  | shareCoordinator (c : CoordinatorId)
  | dropCoordinator (c : CoordinatorId)
  | suspend (c : CoordinatorId)
  | resume (c : CoordinatorId)
  | registerGate (c : CoordinatorId) (g : GateId) (name : String)
  | addGate (c : CoordinatorId) (g : GateId)
  | removeGate (c : CoordinatorId) (g : GateId)
  | addListener (c : CoordinatorId) (l : Listener) (offer : SuspendState → Offer)
  | removeListener (c : CoordinatorId) (l : ListenerId)
  | newService (s : ServiceId) (c : CoordinatorId)
  | dropService (s : ServiceId)
  | suspendService (s : ServiceId)
  | resumeService (s : ServiceId)
  | shutdown (s : ServiceId)
  | startDrain (d : DrainId) (s : ServiceId) (timeout : Span)
  | pollDrain (d : DrainId)
  | giveUpDrain (d : DrainId)
  | cancelDrain (d : DrainId)
  | request (site : Site) (q : Request) (p : PermitId)
  | finishRequest (r : RequestId)
  | cancelRequest (r : RequestId)
  | advance (nanos : Nat)

/-- What comes back. -/
inductive Reply
  | done
  | flag (b : Bool)
  | refused (e : GateError)
  | snapshot (s : Snapshot)
  | response (r : Response)
  | drain (o : DrainOutcome)
  /-- The request waits. -/
  | waiting
  /-- There is no such thing, or its identity is taken. -/
  | absent
  deriving DecidableEq

/-- What an operation still has to do once a caller's code has come back. -/
inductive After
  | reply (r : Reply)
  /-- Give the snapshot of a coordinator. -/
  | snapshot (c : CoordinatorId)
  /-- Answer a request with the snapshot of a coordinator. -/
  | respond (status : Nat) (c : CoordinatorId)
  /-- Start the time of a drain and look how it stands. -/
  | firstPoll (d : DrainId) (s : ServiceId) (timeout : Span)
  /-- Go on with a panic. -/
  | raise (payload : Payload)
  deriving DecidableEq

/-- A piece of a caller's code that is running. -/
inductive Activation
  | callback (g : GateId) (code : CodeId) (after : After)
  /-- A listener's hook, with the listeners that are still to be told of the same. -/
  | hook (c : CoordinatorId) (h : Hook) (l : Listener) (others : List Listener) (after : After)
  | handler (a : Admission)
  deriving DecidableEq

/-- What a move has led to. -/
inductive Signal
  /-- The innermost code starts, or goes on after a wait. -/
  | entered
  /-- An operation has come back to the innermost code. -/
  | replied (r : Reply)
  /-- An operation has left with a panic, into the innermost code. -/
  | raised (payload : Payload)
  /-- A second panic met the first: the program is over. -/
  | aborted
  deriving DecidableEq

/-- The world and the code that is running in it, innermost first. -/
structure Machine where
  world : World := {}
  stack : List Activation := []
  signal : Signal := .replied .done

end Sluice
