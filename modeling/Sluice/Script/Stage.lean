import Sluice.Script.Labels
import Sluice.Script.Step

/-!
# The stage of a script

* `Stage`: the machine, what the labels stand for, and the code that the script has handed in.
* `Plan`: what a step does: it calls operations, and looks at their replies, until it has an answer.
* `Stage.find`, `Stage.keepGate` and the like: objects by their labels.
-/

namespace Sluice.Script

/-- What a listener's hook runs, and how often still. -/
structure Reaction where
  left : Nat
  body : List Step

/-- A listener of the script. -/
structure Actor where
  label : String
  /-- The label of the coordinator that its hooks look at. -/
  coordinator : String
  taste : Taste
  plain : Bool
  started : Reaction
  complete : Reaction
  resumed : Reaction

/-- The reaction to a hook. -/
def Actor.reaction (a : Actor) : Hook → Reaction
  | .suspendStarted => a.started
  | .suspendComplete => a.complete
  | .resumed => a.resumed

/-- The listener after one more call of a hook. -/
def Actor.spend (a : Actor) : Hook → Actor
  | .suspendStarted => { a with started := { a.started with left := a.started.left - 1 } }
  | .suspendComplete => { a with complete := { a.complete with left := a.complete.left - 1 } }
  | .resumed => { a with resumed := { a.resumed with left := a.resumed.left - 1 } }

/-- What a listener makes of a state. -/
def Taste.offer : Taste → SuspendState → Offer
  | always true, _ => .accept
  | always false, _ => .decline
  | only name, s => if s.name = name then .accept else .decline
  | panics payload, _ => .panic payload

/-- The code of a callback. -/
structure Callback where
  label : String
  body : List Step

/-- The code of a handler, which may have to wait first. -/
structure Handler where
  body : List Step
  wait : Option RequestId

/-- A look at a value that changes: how often it had been set at the last look. -/
structure Watch (α : Type) where
  source : α
  seen : Nat

/-- Something that is not finished. -/
inductive Future
  | state (c : CoordinatorId) (target : SuspendState)
  | drain (d : DrainId)
  | request (r : RequestId)

/-- The machine with all that a script knows of it. -/
structure Stage where
  machine : Machine := {}
  /-- The number of the next identity. -/
  supply : Nat := 1
  gates : Labels GateId := []
  permits : Labels Permit := []
  tickets : Labels Ticket := []
  coordinators : Labels CoordinatorId := []
  listeners : Labels ListenerId := []
  services : Labels ServiceId := []
  watches : Labels (Watch CoordinatorId) := []
  shutdowns : Labels (Watch ServiceId) := []
  futures : Labels Future := []
  actors : Table ListenerId Actor := .empty
  callbacks : Table CodeId Callback := .empty
  handlers : Table PermitId Handler := .empty
  aliases : Aliases := []
  /-- The events of the step that runs, newest first. -/
  events : List Event := []

/-- What a step does. -/
inductive Plan
  | answer (s : Stage) (a : Answer)
  | call (s : Stage) (op : Op) (next : Stage → Reply → Plan)

namespace Stage

def world (s : Stage) : World := s.machine.world

/-- A new number. -/
def fresh (s : Stage) : Nat × Stage := (s.supply, { s with supply := s.supply + 1 })

/-- Adds an event. -/
def report (s : Stage) (e : Event) : Stage := { s with events := e :: s.events }

/-- What is seen of a coordinator at a glance. -/
def glanceAt (k : Coordinator) : Glance := ⟨k.state, k.generation, k.pendingNames⟩

/-- What is seen of the coordinator of a label at a glance. -/
def glance? (s : Stage) (label : String) : Option Glance := do
  let c ← s.coordinators.get? label
  let k ← s.world.coordinators c
  pure (glanceAt k)

/-! ## Labels -/

/-- The object of a label, or an answer that there is none. -/
def find {α : Type} (s : Stage) (labels : Stage → Labels α) (kind label : String) (next : α → Plan) :
    Plan :=
  match (labels s).get? label with
  | some a => next a
  | none => .answer s (.missing kind label)

/-- The gate of a label, with its identity. -/
def findGate (s : Stage) (label : String) (next : GateId → Gate → Plan) : Plan :=
  s.find gates "gate" label fun g =>
    match s.world.gates g with
    | some x => next g x
    | none => .answer s (.missing "gate" label)

/-- The coordinator of a label, with its identity. -/
def findCoordinator (s : Stage) (label : String) (next : CoordinatorId → Coordinator → Plan) : Plan :=
  s.find coordinators "coordinator" label fun c =>
    match s.world.coordinators c with
    | some k => next c k
    | none => .answer s (.missing "coordinator" label)

/-- The service of a label, with its coordinator. -/
def findService (s : Stage) (label : String) (next : ServiceId → Coordinator → Plan) : Plan :=
  s.find services "service" label fun x =>
    match s.world.coordinatorOf x with
    | some (_, k) => next x k
    | none => .answer s (.missing "service" label)

/-- Gives a label to a gate. -/
def keepGate (s : Stage) (label : String) (g : GateId) : Stage :=
  { s with gates := s.gates.give label g,
           aliases := s.aliases.add g.uuid.text ("<gate " ++ label ++ ">") }

/-- Gives a label to a new permit, and drops the permit that had it. -/
def keepPermit (s : Stage) (label : String) (p : Permit) (next : Stage → Plan) : Plan :=
  let old := s.permits.get? label
  let s := { s with permits := s.permits.give label p,
                    aliases := s.aliases.add p.id.uuid.text ("<permit " ++ label ++ ">") }
  match old with
  | none => next s
  | some p => .call s (.drop p) fun s _ => next s

/-- Gives a label to a ticket. -/
def keepTicket (s : Stage) (label : String) (t : Ticket) : Stage :=
  { s with tickets := s.tickets.give label t }

/-- Gives a label to a coordinator, and lets go of the one that had it. -/
def keepCoordinator (s : Stage) (label : String) (c : CoordinatorId) (next : Stage → Plan) : Plan :=
  let old := s.coordinators.get? label
  let s := { s with coordinators := s.coordinators.give label c }
  match old with
  | none => next s
  | some c => .call s (.dropCoordinator c) fun s _ => next s

/-- Gives a label to a service, and lets go of the one that had it. -/
def keepService (s : Stage) (label : String) (x : ServiceId) (next : Stage → Plan) : Plan :=
  let old := s.services.get? label
  let s := { s with services := s.services.give label x }
  match old with
  | none => next s
  | some x => .call s (.dropService x) fun s _ => next s

/-- Drops something that is not finished. -/
def dropFuture (s : Stage) (f : Future) (next : Stage → Plan) : Plan :=
  let op := match f with
    | .state c _ => Op.dropCoordinator c
    | .drain d => Op.cancelDrain d
    | .request r => Op.cancelRequest r
  .call s op fun s _ => next s

/-- Gives a label to something that is not finished, and drops what had it. -/
def keepFuture (s : Stage) (label : String) (f : Future) (next : Stage → Plan) : Plan :=
  let old := s.futures.get? label
  let s := { s with futures := s.futures.give label f }
  match old with
  | none => next s
  | some f => s.dropFuture f next

/-- Takes a label away from something that is now finished. -/
def forgetFuture (s : Stage) (label : String) : Stage :=
  { s with futures := s.futures.forget label }

end Stage

end Sluice.Script
