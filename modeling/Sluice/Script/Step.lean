import Sluice.Machine.Basic

/-!
# Scripts

A script drives the machine by steps. Objects go by labels, and a step may carry the steps of the code
that it hands in.

* `Step`: a step, with its `Step.name`.
* `Answer`, `Event`: what a step gives, and what the code that runs in it reports.
-/

namespace Sluice.Script

/-- What a listener makes of an offer. -/
inductive Taste
  | always (b : Bool)
  | only (state : String)
  | panics (payload : Payload)
  deriving DecidableEq

/-- A step. A label `new` is given to what the step makes. -/
inductive Step
  | gate (new name : String)
  | cloneGate (gate new : String)
  | sameGate (gate other : String)
  | acquire (gate new : String)
  | release (permit : String)
  | releasePermit (gate permit : String)
  | drop (permit : String)
  | detach (permit new : String)
  | ticketOf (permit new : String)
  | forge (permitOf gateOf new : String)
  | ticket (text new : String)
  | releaseTicket (ticket gate : String)
  | beginDrain (gate new : String) (body : List Step)
  | resumeGate (gate : String)
  | status (gate : String)
  | debugGate (gate : String)
  | debugPermit (permit : String)
  | coordinator (new : String)
  | cloneCoordinator (c new : String)
  | dropCoordinator (c : String)
  | suspend (c : String)
  | resume (c : String)
  | registerGate (c name new : String)
  | addGate (c gate : String)
  | removeGate (c gate : String)
  | gates (c : String)
  | outstanding (c : String)
  | busy (c : String)
  | snapshot (c : String)
  | debugCoordinator (c : String)
  /-- A listener that runs the steps of a hook at its first `limit` calls, and a plain one none. -/
  | listener (new c : String) (taste : Taste) (plain : Bool) (limit : Nat)
      (started complete resumed : List Step)
  | addListener (listener c : String)
  | removeListener (listener c : String)
  | subscribe (c new : String)
  | changed (watch : String)
  | waitFor (c : String) (target : SuspendState) (new : String)
  | poll (future : String)
  | cancel (future : String)
  | finish (future : String)
  | panic (payload : Payload)
  | service (c new : String)
  | serviceState (service : String)
  | serviceSnapshot (service : String)
  | serviceSuspend (service : String)
  | serviceResume (service : String)
  | triggerShutdown (service : String)
  | shutdownRx (service new : String)
  | shutdownChanged (watch : String)
  | drain (service : String) (timeout : Span) (new : Option String)
  | advance (millis : Nat)
  | http (service gate : Option String) (method path : String) (body : List Step)
      (new : Option String)
  | serve (service : String) (gate : Option String) (host : String) (port : Nat) (timeout : Span)
  | unknown (name : String)
  deriving Inhabited

/-- The name of a step. -/
def Step.name : Step → String
  | gate .. => "gate"
  | cloneGate .. => "clone_gate"
  | sameGate .. => "same_gate"
  | acquire .. => "acquire"
  | release .. => "release"
  | releasePermit .. => "release_permit"
  | drop .. => "drop"
  | detach .. => "detach"
  | ticketOf .. => "ticket_of"
  | forge .. => "forge"
  | ticket .. => "ticket"
  | releaseTicket .. => "release_ticket"
  | beginDrain .. => "begin_drain"
  | resumeGate .. => "resume_gate"
  | status .. => "status"
  | debugGate .. => "debug_gate"
  | debugPermit .. => "debug_permit"
  | coordinator .. => "coordinator"
  | cloneCoordinator .. => "clone_coordinator"
  | dropCoordinator .. => "drop_coordinator"
  | suspend .. => "suspend"
  | resume .. => "resume"
  | registerGate .. => "register_gate"
  | addGate .. => "add_gate"
  | removeGate .. => "remove_gate"
  | gates .. => "gates"
  | outstanding .. => "outstanding"
  | busy .. => "busy"
  | snapshot .. => "snapshot"
  | debugCoordinator .. => "debug_coordinator"
  | listener .. => "listener"
  | addListener .. => "add_listener"
  | removeListener .. => "remove_listener"
  | subscribe .. => "subscribe"
  | changed .. => "changed"
  | waitFor .. => "wait_for"
  | poll .. => "poll"
  | cancel .. => "cancel"
  | finish .. => "finish"
  | panic .. => "panic"
  | service .. => "service"
  | serviceState .. => "service_state"
  | serviceSnapshot .. => "service_snapshot"
  | serviceSuspend .. => "service_suspend"
  | serviceResume .. => "service_resume"
  | triggerShutdown .. => "trigger_shutdown"
  | shutdownRx .. => "shutdown_rx"
  | shutdownChanged .. => "shutdown_changed"
  | drain .. => "drain"
  | advance .. => "advance"
  | http .. => "http"
  | serve .. => "serve"
  | unknown name => name

/-- What a step gives. -/
inductive Answer
  | nothing
  | text (s : String)
  | flag (b : Bool)
  | count (n : Int)
  | tuple (parts : List Answer)
  | missing (kind label : String)
  | refused (e : GateError)
  | timedOut (e : DrainError)
  | response (r : Http.Response)
  | unserved (reason : String)
  | unfit (what : String)
  | panicked (payload : Payload)

/-- A list of texts. -/
def Answer.names (l : List String) : Answer := .tuple (l.map .text)

/-- What is seen of a coordinator at a glance. -/
structure Glance where
  state : SuspendState
  generation : Nat
  pending : List String
  deriving DecidableEq

/-- What the code that runs in a step reports. -/
inductive Event
  | callback (label : String) (state : GateState) (outstanding : Int)
  | offered (label : String) (state : SuspendState)
  | hook (hook : Hook) (label : String) (glance : Option Glance)
  | step (name : String) (answer : Answer)

/-- All that a step leads to: the answer, how the labelled gates and coordinators then stand, the
events and the records of the log. -/
structure Outcome where
  answer : Answer
  gates : List (String × GateState × Int)
  coordinators : List (String × Glance)
  events : List Event
  log : List Record

end Sluice.Script
