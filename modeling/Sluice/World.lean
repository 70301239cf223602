import Sluice.Alert
import Sluice.Http.Message
import Sluice.Table

/-!
# The world

All gates, coordinators, services and drains together, the clock, and the journal of what has
happened. The operations here run no caller's code: where some is due they hand it out, or leave it
in a coordinator's outbox.

* `World`, `Occurrence`: the state and its journal.
* `World.letIn`, `World.turnAway`, `World.release`, `World.beginDrain`, `World.reopen`: one gate.
* `World.suspend`, `World.resume`, `World.drained`, `World.addGate`, `World.removeGate`: a coordinator
  with its gates.
* `World.snapshot`: what a coordinator shows.
* `World.poll`: what a drain that waits finds.
-/

namespace Sluice

/-- The identity of a service. -/
structure ServiceId where
  index : Nat
  deriving DecidableEq

/-- The identity of a drain. -/
structure DrainId where
  index : Nat
  deriving DecidableEq

/-- The identity of a request that waits. -/
structure RequestId where
  index : Nat
  deriving DecidableEq

/-- An operator's surface over a coordinator. -/
structure Service where
  coordinator : CoordinatorId
  /-- Whether a shutdown has been asked for, and how often. -/
  shutdown : Bool := false
  version : Nat := 0
  /-- How many holders there are. -/
  handles : Nat := 1
  deriving DecidableEq

/-- A drain that waits for a service's coordinator to be suspended. -/
structure Drain where
  service : ServiceId
  timeout : Span
  deadline : Nat
  deriving DecidableEq

/-- How a drain stands. -/
inductive DrainOutcome
  | drained
  | timedOut (error : DrainError)
  | pending
  deriving DecidableEq

/-- A request that has been let in and whose handler has not answered. -/
structure Admission where
  permit : Permit
  /-- What becomes of its answer. -/
  edit : Http.Edit
  path : String
  deriving DecidableEq

/-- Something that has happened. -/
inductive Occurrence
  | issued (gate : GateId) (permit : PermitId)
  | returned (gate : GateId) (permit : PermitId)
  /-- A gate was closed: it keeps the callback unless it was drained at once. -/
  | closed (gate : GateId) (callback : DrainCallback) (drained : Bool)
  | reopened (gate : GateId)
  /-- A drain was complete and this callback was run. -/
  | fired (gate : GateId) (callback : DrainCallback)
  /-- A coordinator entered a state, with these listeners subscribed. -/
  | entered (coordinator : CoordinatorId) (state : SuspendState) (audience : List Listener)
  /-- A listener was offered a state, and took the subscription or not. -/
  | offered (coordinator : CoordinatorId) (listener : Listener) (state : SuspendState) (taken : Bool)
  | unsubscribed (coordinator : CoordinatorId) (listener : ListenerId)
  | called (coordinator : CoordinatorId) (hook : Hook) (listener : Listener)
  | alerted (alert : Alert)
  deriving DecidableEq

/-- Everything that an operation can see or change. -/
structure World where
  gates : Table GateId Gate := .empty
  /-- Which gate issued a permit. -/
  issuer : Table PermitId GateId := .empty
  coordinators : Table CoordinatorId Coordinator := .empty
  services : Table ServiceId Service := .empty
  drains : Table DrainId Drain := .empty
  waiting : Table RequestId Admission := .empty
  /-- The time on the clock that drains go by, in nanoseconds. -/
  clock : Nat := 0
  /-- The moment as a snapshot writes it. -/
  date : String := ""
  /-- What has happened, newest first. -/
  journal : List Occurrence := []

namespace World

/-- Adds to the journal. -/
def note (w : World) (o : Occurrence) : World := { w with journal := o :: w.journal }

/-- Adds an alert to the journal. -/
def alert (w : World) (a : Alert) : World := w.note (.alerted a)

def setGate (w : World) (g : GateId) (x : Gate) : World := { w with gates := w.gates.set g x }

def setCoordinator (w : World) (c : CoordinatorId) (k : Coordinator) : World :=
  { w with coordinators := w.coordinators.set c k }

def setService (w : World) (s : ServiceId) (x : Service) : World :=
  { w with services := w.services.set s x }

/-! ## Gates -/

/-- Lets work in under a new permit. -/
def letIn (w : World) (g : GateId) (x : Gate) (p : PermitId) : World :=
  { (w.setGate g (x.letIn p)) with issuer := w.issuer.set p g }.note (.issued g p)

/-- Turns work away. -/
def turnAway (w : World) (g : GateId) (x : Gate) : World × Option DrainCallback :=
  let (x, callback) := x.turnAway
  (w.setGate g x, callback)

/-- Takes a permit back, or says why not. -/
def release (w : World) (g : GateId) (x : Gate) (p : PermitId) :
    World × Except GateError (Option DrainCallback) :=
  match x.release? p with
  | some (x, callback) => ((w.setGate g x).note (.returned g p), .ok callback)
  | none => (w.alert (.releasedTwice x.name p), .error (.doubleRelease x.name p))

/-- Takes a permit back that its holder has let go of: a failure goes to the log only. -/
def drop (w : World) (g : GateId) (x : Gate) (p : PermitId) : World × Option DrainCallback :=
  match w.release g x p with
  | (w, .ok callback) => (w, callback)
  | (w, .error e) => (w.alert (.lostPermit x.name p e), none)

/-- Closes a gate: true if it is drained already. -/
def beginDrain (w : World) (g : GateId) (x : Gate) (callback : DrainCallback) : World × Bool :=
  let drained : Bool := x.outstanding = 0
  ((w.setGate g (x.beginDrain callback)).note (.closed g callback drained), drained)

/-- Opens a gate. -/
def reopen (w : World) (g : GateId) (x : Gate) : World := (w.setGate g x.reopen).note (.reopened g)

/-- Closes gates, and gives those that are not yet drained. -/
def closeAll (w : World) (callback : DrainCallback) : List GateId → World × List (GateId × String)
  | [] => (w, [])
  | g :: gs =>
    match w.gates g with
    | none => w.closeAll callback gs
    | some x =>
      let (w, drained) := w.beginDrain g x callback
      let (w, busy) := w.closeAll callback gs
      (w, if drained then busy else (g, x.name) :: busy)

/-- Opens gates. -/
def openAll (w : World) : List GateId → World
  | [] => w
  | g :: gs =>
    match w.gates g with
    | none => w.openAll gs
    | some x => (w.reopen g x).openAll gs

/-! ## Coordinators -/

/-- A coordinator enters a state. -/
def enter (w : World) (c : CoordinatorId) (k : Coordinator) (s : SuspendState) : World :=
  (w.setCoordinator c (k.setState s)).note (.entered c s k.listeners)

/-- Nothing is waited for any more. -/
def complete (w : World) (c : CoordinatorId) (k : Coordinator) : World :=
  w.enter c ({ k with pending := none, suspendedAt := some w.date }.notify .suspendComplete) .suspended

/-- Closes the gates of a running coordinator, and waits for those that are busy. -/
def suspend (w : World) (c : CoordinatorId) (k : Coordinator) : World :=
  let k := { k with generation := k.generation + 1 }.notify .suspendStarted
  let w := w.enter c k .suspending
  let (w, busy) := w.closeAll (.report c k.generation) k.gates
  let k := k.setState .suspending
  if busy.isEmpty then w.complete c k
  else w.setCoordinator c { k with pending := some ⟨k.generation, busy⟩ }

/-- Opens the gates of a coordinator that is not running. -/
def resume (w : World) (c : CoordinatorId) (k : Coordinator) : World :=
  let k := { k with generation := k.generation + 1, pending := none, suspendedAt := none }
  (w.enter c (k.notify .resumed) .running).openAll k.gates

/-- A gate is no longer waited for: if it was the last, the suspend is complete. -/
def strike (w : World) (c : CoordinatorId) (k : Coordinator) (g : GateId) : World :=
  match k.pending with
  | none => w.setCoordinator c k
  | some p =>
    if p.waitsFor g then
      let p := p.strike g
      if p.gates.isEmpty then w.complete c k else w.setCoordinator c { k with pending := some p }
    else w.setCoordinator c k

/-- A gate reports that it is drained. Reports from other attempts are ignored. -/
def drained (w : World) (c : CoordinatorId) (k : Coordinator) (generation : Nat) (g : GateId) :
    World :=
  match k.pending with
  | none => w
  | some p => if p.generation = generation then w.strike c k g else w

/-- Registers a gate. Unless the coordinator is running the gate is closed, and a suspend that goes on
waits for it, too. -/
def addGate (w : World) (c : CoordinatorId) (k : Coordinator) (g : GateId) (x : Gate) : World :=
  if g ∈ k.gates then w.alert (.registeredTwice x.name)
  else if k.state.isActive then
    let (w, drained) := w.beginDrain g x (.report c k.generation)
    match k.pending with
    | some p =>
      let pending := if drained then p else p.add g x.name
      w.setCoordinator c { k with gates := k.gates ++ [g], pending := some pending }
    | none =>
      let w := if drained then w else w.alert (.registeredBusy x.name x.outstanding)
      w.setCoordinator c { k with gates := k.gates ++ [g] }
  else w.setCoordinator c { k with gates := k.gates ++ [g] }

/-- Unregisters a gate. A suspend that waited only for this one is complete. -/
def removeGate (w : World) (c : CoordinatorId) (k : Coordinator) (g : GateId) : World :=
  w.strike c { k with gates := k.gates.filter (· ≠ g) } g

/-- The gates that still hold permits, with their counts. -/
def outstandingGates (w : World) (k : Coordinator) : List (String × Int) :=
  (k.gates.filterMap w.gates).filterMap fun x =>
    if 0 < x.outstanding then some (x.name, x.outstanding) else none

/-- What a coordinator shows. -/
def snapshot (w : World) (k : Coordinator) : Snapshot where
  state := k.state
  generation := k.generation
  suspendedAt := k.suspendedAt
  gates := (k.gates.filterMap w.gates).map Gate.status
  pending := k.pendingNames

/-- One holder fewer. -/
def dropCoordinator (w : World) (c : CoordinatorId) : World :=
  match w.coordinators c with
  | none => w
  | some k => w.setCoordinator c { k with handles := k.handles - 1 }

/-! ## Services and drains -/

/-- Asks for a shutdown. -/
def shutdown (w : World) (s : ServiceId) (x : Service) : World :=
  w.setService s { x with shutdown := true, version := x.version + 1 }

/-- The coordinator of a service. -/
def coordinatorOf (w : World) (s : ServiceId) : Option (CoordinatorId × Coordinator) := do
  let x ← w.services s
  let k ← w.coordinators x.coordinator
  pure (x.coordinator, k)

/-- One holder fewer: with the last, the service lets go of its coordinator. -/
def dropService (w : World) (s : ServiceId) : World :=
  match w.services s with
  | none => w
  | some x =>
    let w := w.setService s { x with handles := x.handles - 1 }
    if x.handles = 1 then w.dropCoordinator x.coordinator else w

/-- Ends a drain that has run out of time. -/
def expire (w : World) (k : Coordinator) (d : Drain) : World × DrainError :=
  ((w.outstandingGates k).foldl (fun w x => w.alert (.stillBusy x.1 x.2)) w,
    ⟨d.timeout, k.pendingNames⟩)

/-- What a drain finds: that the coordinator is suspended, else that its time is over, else that it
has to wait. -/
def poll (w : World) (k : Coordinator) (d : Drain) : World × DrainOutcome :=
  if k.published = .suspended then (w, .drained)
  else if d.deadline ≤ w.clock then
    let (w, e) := w.expire k d
    (w, .timedOut e)
  else (w, .pending)

end World

end Sluice
