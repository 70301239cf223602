import Sluice.Address
import Sluice.Script.Stage
import Sluice.Wire.Ticket

/-!
# What the steps of a script do

* `Stage.plan`: the plan of each step.
* `Stage.send`, `Stage.serve`, `Stage.sitOut`: the plans of a request, of a server, and of a drain that is
  waited for.
-/

namespace Sluice.Script.Stage

/-! ## Answers -/

/-- The answer to an operation that has nothing to tell. -/
def quiet (s : Stage) (_ : Reply) : Plan := .answer s .nothing

/-- The answer to a release. -/
def released (s : Stage) : Reply → Plan
  | .refused e => .answer s (.refused e)
  | _ => .answer s (.text "ok")

/-- The answer to an operation that says yes or no. -/
def decided (s : Stage) : Reply → Plan
  | .flag b => .answer s (.flag b)
  | _ => .answer s .nothing

/-- The answer to an operation that gives a snapshot. -/
def pictured (s : Stage) : Reply → Plan
  | .snapshot x => .answer s (.text (String.ofList x.encode))
  | _ => .answer s .nothing

/-- The answer of something that goes on. -/
def pending : Answer := .text "pending"

/-- The answer to a look at a drain. -/
def ofDrain : DrainOutcome → Answer
  | .drained => .text "drained"
  | .timedOut e => .timedOut e
  | .pending => pending

/-- The answer to a request that has been answered. -/
def responded (s : Stage) : Reply → Plan
  | .response r => .answer s (.response r)
  | _ => .answer s .nothing

/-- So many nanoseconds to a millisecond. -/
def milli : Nat := 1_000_000

/-- Looks at something that is not finished. -/
def look (s : Stage) (label : String) : Future → Plan
  | .state c target =>
    match s.world.coordinators c with
    | none => .answer s pending
    | some k =>
      if k.published = target then
        .call (s.forgetFuture label) (.dropCoordinator c) fun s _ => .answer s (.text "ready")
      else .answer s pending
  | .drain d =>
    .call s (.pollDrain d) fun s r =>
      match r with
      | .drain .pending => .answer s pending
      | .drain o => .answer (s.forgetFuture label) (ofDrain o)
      | _ => .answer s .nothing
  | .request _ => .answer s pending

/-- Runs a drain to its end: nothing else happens before its deadline. -/
def sitOut (s : Stage) (d : DrainId) : Plan :=
  match s.world.drains d with
  | none => .answer s .nothing
  | some x =>
    let late := (x.deadline + milli - 1) / milli * milli
    .call s (.advance (late - s.world.clock)) fun s _ =>
      .call s (.pollDrain d) fun s r =>
        match r with
        | .drain o => .answer s (ofDrain o)
        | _ => .answer s .nothing

/-! ## Plans -/

/-- Sends a request. -/
def send (s : Stage) (service : Option ServiceId) (gate : Option GateId) (method path : String)
    (body : List Step) (new : Option String) : Plan :=
  match Http.Request.ofParts? method path with
  | none => .answer s (.unfit "request")
  | some q =>
    let (n, s) := s.fresh
    let (m, s) := s.fresh
    let p : PermitId := ⟨Uuid.nth n⟩
    let r : RequestId := ⟨m⟩
    let s := { s with handlers := s.handlers.set p ⟨body, new.map fun _ => r⟩ }
    let site : Http.Site := { service, app := gate.map fun g => ⟨g, .get (.exactly "/work")⟩ }
    .call s (.request site q p) fun s reply =>
      match reply, new with
      | .waiting, some label => s.keepFuture label (.request r) fun s => .answer s pending
      | reply, _ => s.responded reply

/-- Looks up the gate of an optional label. -/
def findGate? (s : Stage) (label : Option String) (next : Option GateId → Plan) : Plan :=
  match label with
  | none => next none
  | some label => s.findGate label fun g _ => next (some g)

/-- Serves until the shutdown that has been asked for is over. -/
def serve (s : Stage) (x : ServiceId) (host : String) (port : Nat) (timeout : Span) : Plan :=
  match Address.listen host port with
  | .error fault => .answer s (.unserved fault.message)
  | .ok _ =>
    let (n, s) := s.fresh
    .call s (.startDrain ⟨n⟩ x timeout) fun s r =>
      match r with
      | .drain .pending => .call s (.giveUpDrain ⟨n⟩) fun s _ => .answer s (.text "stopped")
      | _ => .answer s (.text "stopped")

/-- The plan of a step about gates, permits and tickets. -/
def planGate (s : Stage) : Step → Plan
  | .gate new name =>
    let (n, s) := s.fresh
    let g : GateId := ⟨Uuid.nth n⟩
    .call s (.newGate g name) fun s _ => .answer (s.keepGate new g) .nothing
  | .cloneGate gate new => s.findGate gate fun g _ => .answer (s.keepGate new g) .nothing
  | .sameGate gate other =>
    s.findGate gate fun g _ => s.findGate other fun h _ => .answer s (.flag (g = h))
  | .acquire gate new =>
    s.findGate gate fun g _ =>
      let (n, s) := s.fresh
      let p : PermitId := ⟨Uuid.nth n⟩
      .call s (.acquire g p) fun s r =>
        match r with
        | .refused e => .answer s (.refused e)
        | _ => s.keepPermit new ⟨p, g⟩ fun s => .answer s (.text "ok")
  | .release permit =>
    s.find permits "permit" permit fun p =>
      .call { s with permits := s.permits.forget permit } (.release p) released
  | .releasePermit gate permit =>
    s.findGate gate fun g _ => s.find permits "permit" permit fun p =>
      .call { s with permits := s.permits.forget permit } (.releaseVia g p) released
  | .drop permit =>
    s.find permits "permit" permit fun p =>
      .call { s with permits := s.permits.forget permit } (.drop p) quiet
  | .detach permit new =>
    s.find permits "permit" permit fun p =>
      .answer ({ s with permits := s.permits.forget permit }.keepTicket new p.ticket) .nothing
  | .ticketOf permit new =>
    s.find permits "permit" permit fun p => .answer (s.keepTicket new p.ticket) .nothing
  | .forge permitOf gateOf new =>
    s.find tickets "ticket" permitOf fun a => s.find tickets "ticket" gateOf fun b =>
      .answer (s.keepTicket new ⟨a.permit, b.gate⟩) .nothing
  | .ticket text new =>
    match Ticket.decode text with
    | .ok t => .answer (s.keepTicket new t) .nothing
    | .error _ => .answer s (.unfit "ticket")
  | .releaseTicket ticket gate =>
    s.find tickets "ticket" ticket fun t => s.findGate gate fun g _ =>
      .call s (.releaseTicket g t) released
  | .beginDrain gate new body =>
    s.findGate gate fun g _ =>
      let (n, s) := s.fresh
      let s := { s with callbacks := s.callbacks.set ⟨n⟩ ⟨new, body⟩ }
      .call s (.beginDrain g ⟨n⟩) decided
  | .resumeGate gate => s.findGate gate fun g _ => .call s (.reopen g) quiet
  | .status gate =>
    s.findGate gate fun _ x => .answer s (.text (String.ofList x.status.encode))
  | .debugGate gate => s.findGate gate fun g x => .answer s (.text (x.text g))
  | .debugPermit permit =>
    s.find permits "permit" permit fun p =>
      let name := ((s.world.gates p.gate).map Gate.name).getD ""
      .answer s (.names [p.text name, name, p.gate.uuid.text])
  | step => .answer s (.unfit step.name)

/-- The plan of a step about coordinators, their listeners and watches. -/
def planCoordinator (s : Stage) : Step → Plan
  | .coordinator new =>
    let (n, s) := s.fresh
    .call s (.newCoordinator ⟨n⟩) fun s _ => s.keepCoordinator new ⟨n⟩ fun s => .answer s .nothing
  | .cloneCoordinator c new =>
    s.findCoordinator c fun c _ =>
      .call s (.shareCoordinator c) fun s _ =>
        s.keepCoordinator new c fun s => .answer s .nothing
  | .dropCoordinator label =>
    s.findCoordinator label fun c _ =>
      .call { s with coordinators := s.coordinators.forget label } (.dropCoordinator c) quiet
  | .suspend c => s.findCoordinator c fun c _ => .call s (.suspend c) quiet
  | .resume c => s.findCoordinator c fun c _ => .call s (.resume c) quiet
  | .registerGate c name new =>
    s.findCoordinator c fun c _ =>
      let (n, s) := s.fresh
      let g : GateId := ⟨Uuid.nth n⟩
      .call s (.registerGate c g name) fun s _ => .answer (s.keepGate new g) .nothing
  | .addGate c gate =>
    s.findCoordinator c fun c _ => s.findGate gate fun g _ => .call s (.addGate c g) quiet
  | .removeGate c gate =>
    s.findCoordinator c fun c _ => s.findGate gate fun g _ => .call s (.removeGate c g) decided
  | .gates c =>
    s.findCoordinator c fun _ k =>
      .answer s (.names ((k.gates.filterMap s.world.gates).map Gate.name))
  | .outstanding c =>
    s.findCoordinator c fun _ k =>
      .answer s (.tuple ((s.world.outstandingGates k).map fun x =>
        .tuple [.text x.1, .count x.2]))
  | .busy c =>
    s.findCoordinator c fun _ k =>
      .answer s (.names ((s.world.snapshot k).outstandingGates.map GateStatus.name))
  | .snapshot c =>
    s.findCoordinator c fun _ k =>
      .answer s (.text (String.ofList (s.world.snapshot k).encode))
  | .debugCoordinator c => s.findCoordinator c fun _ k => .answer s (.text k.text)
  | .listener new c taste plain limit started complete resumed =>
    let (n, s) := s.fresh
    let actor : Actor := ⟨new, c, taste, plain, ⟨limit, started⟩, ⟨limit, complete⟩, ⟨limit, resumed⟩⟩
    .answer { s with listeners := s.listeners.give new ⟨n⟩, actors := s.actors.set ⟨n⟩ actor } .nothing
  | .addListener listener c =>
    s.find listeners "listener" listener fun l => s.findCoordinator c fun c k =>
      match s.actors l with
      | none => .answer s .nothing
      | some a =>
        if a.plain then .call s (.addListener c ⟨l, a.label⟩ fun _ => .accept) decided
        else
          let s := s.report (.offered a.label k.state)
          .call s (.addListener c ⟨l, a.label⟩ a.taste.offer) decided
  | .removeListener listener c =>
    s.find listeners "listener" listener fun l => s.findCoordinator c fun c _ =>
      .call s (.removeListener c l) decided
  | .subscribe c new =>
    s.findCoordinator c fun c k =>
      .answer { s with watches := s.watches.give new ⟨c, k.version⟩ } .nothing
  | .changed watch =>
    s.find watches "watch" watch fun x =>
      match s.world.coordinators x.source with
      | none => .answer s .nothing
      | some k =>
        if k.isAlive then
          .answer { s with watches := s.watches.give watch ⟨x.source, k.version⟩ }
            (.tuple [.flag (k.version ≠ x.seen), .text k.published.name])
        else .answer s (.tuple [.text "closed", .text k.published.name])
  | .waitFor c target new =>
    s.findCoordinator c fun c k =>
      if k.published = target then .answer s (.text "ready")
      else
        .call s (.shareCoordinator c) fun s _ =>
          s.keepFuture new (.state c target) fun s => .answer s pending
  | .poll future => s.find futures "future" future fun f => s.look future f
  | .cancel future =>
    s.find futures "future" future fun f =>
      (s.forgetFuture future).dropFuture f fun s => .answer s .nothing
  | .finish future =>
    s.find futures "future" future fun f =>
      match f with
      | .request r => .call (s.forgetFuture future) (.finishRequest r) responded
      | f => s.look future f
  | step => s.planGate step

/-- The plan of a step. -/
def plan (s : Stage) : Step → Plan
  | .panic payload => .answer s (.panicked payload)
  | .service c new =>
    s.findCoordinator c fun c _ =>
      let (n, s) := s.fresh
      .call s (.newService ⟨n⟩ c) fun s _ => s.keepService new ⟨n⟩ fun s => .answer s .nothing
  | .serviceState service =>
    s.findService service fun _ k => .answer s (.names [k.published.name, k.published.name])
  | .serviceSnapshot service =>
    s.findService service fun _ k =>
      .answer s (.text (String.ofList (s.world.snapshot k).encode))
  | .serviceSuspend service => s.findService service fun x _ => .call s (.suspendService x) pictured
  | .serviceResume service => s.findService service fun x _ => .call s (.resumeService x) pictured
  | .triggerShutdown service => s.findService service fun x _ => .call s (.shutdown x) quiet
  | .shutdownRx service new =>
    s.findService service fun x _ =>
      .answer { s with shutdowns := s.shutdowns.give new ⟨x, 0⟩ } .nothing
  | .shutdownChanged watch =>
    s.find shutdowns "watch" watch fun x =>
      match s.world.services x.source with
      | none => .answer s .nothing
      | some y =>
        if 0 < y.handles then
          .answer { s with shutdowns := s.shutdowns.give watch ⟨x.source, y.version⟩ }
            (.tuple [.flag (y.version ≠ x.seen), .flag y.shutdown])
        else .answer s (.tuple [.text "closed", .flag y.shutdown])
  | .drain service timeout new =>
    s.findService service fun x _ =>
      let (n, s) := s.fresh
      .call s (.startDrain ⟨n⟩ x timeout) fun s r =>
        match r, new with
        | .drain .pending, some label =>
          s.keepFuture label (.drain ⟨n⟩) fun s => .answer s pending
        | .drain .pending, none => s.sitOut ⟨n⟩
        | .drain o, _ => .answer s (ofDrain o)
        | _, _ => .answer s .nothing
  | .advance millis => .call s (.advance (millis * milli)) quiet
  | .http service gate method path body new =>
    match service with
    | none => s.findGate? gate fun g => s.send none g method path body new
    | some service =>
      s.findService service fun x _ =>
        s.findGate? gate fun g => s.send (some x) g method path body new
  | .serve service gate host port timeout =>
    s.findService service fun x _ => s.findGate? gate fun _ => s.serve x host port timeout
  | .unknown _ => .answer s (.unfit "op")
  | step => s.planCoordinator step

end Sluice.Script.Stage
