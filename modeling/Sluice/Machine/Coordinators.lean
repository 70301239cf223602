import Sluice.Machine.Control

/-!
# Coordinators, services and drains

* `suspend`, `resume`: the transitions. `addGate`, `removeGate`: the gates that they concern.
* `addListener`, `removeListener`: who is told.
* `startDrain`, `pollDrain`, `giveUpDrain`, `cancelDrain`: a suspend with a time limit.
-/

namespace Sluice.Machine

variable (w : World) (stack : List Activation)

/-- Makes a coordinator. -/
def newCoordinator (c : CoordinatorId) : Machine :=
  match w.coordinators c with
  | some _ => reply w stack .absent
  | none => reply (w.setCoordinator c {}) stack .done

/-- One holder more. -/
def shareCoordinator (c : CoordinatorId) : Machine :=
  match w.coordinators c with
  | none => reply w stack .absent
  | some k => reply (w.setCoordinator c { k with handles := k.handles + 1 }) stack .done

/-- Suspends a running coordinator, and then does what is left. -/
def suspend (c : CoordinatorId) (after : After) : Machine :=
  match w.coordinators c with
  | none => reply w stack .absent
  | some k =>
    if k.state = .running then dispatch (w.suspend c k) stack c after else finish w stack after

/-- Resumes a coordinator that is not running, and then does what is left. -/
def resume (c : CoordinatorId) (after : After) : Machine :=
  match w.coordinators c with
  | none => reply w stack .absent
  | some k =>
    if k.state = .running then finish w stack after else dispatch (w.resume c k) stack c after

/-- Makes a gate and registers it. -/
def registerGate (c : CoordinatorId) (g : GateId) (name : String) : Machine :=
  match w.coordinators c, w.gates g with
  | some k, none =>
    let x : Gate := { name }
    reply ((w.setGate g x).addGate c k g x) stack .done
  | _, _ => reply w stack .absent

/-- Registers a gate. -/
def addGate (c : CoordinatorId) (g : GateId) : Machine :=
  match w.coordinators c, w.gates g with
  | some k, some x => reply (w.addGate c k g x) stack .done
  | _, _ => reply w stack .absent

/-- Unregisters a gate, and answers whether it was registered. -/
def removeGate (c : CoordinatorId) (g : GateId) : Machine :=
  match w.coordinators c with
  | none => reply w stack .absent
  | some k => dispatch (w.removeGate c k g) stack c (.reply (.flag (g ∈ k.gates)))

/-- Offers a listener the state, and subscribes it unless it declines. -/
def addListener (c : CoordinatorId) (l : Listener) (offer : SuspendState → Offer) : Machine :=
  match w.coordinators c with
  | none => reply w stack .absent
  | some k =>
    match offer k.state with
    | .accept =>
      let w := w.setCoordinator c { k with listeners := k.listeners ++ [l] }
      reply (w.note (.offered c l k.state true)) stack (.flag true)
    | .decline => reply (w.note (.offered c l k.state false)) stack (.flag false)
    | .panic payload =>
      let w := w.alert (.listenerPanicked l.name "listener_added" payload)
      reply (w.note (.offered c l k.state false)) stack (.flag false)

/-- Unsubscribes a listener wherever it is subscribed, and answers whether it was. -/
def removeListener (c : CoordinatorId) (l : ListenerId) : Machine :=
  match w.coordinators c with
  | none => reply w stack .absent
  | some k =>
    let rest := k.listeners.filter fun x => x.id ≠ l
    let w := (w.setCoordinator c { k with listeners := rest }).note (.unsubscribed c l)
    reply w stack (.flag (k.listeners.any fun x => x.id = l))

/-! ## Services and drains -/

/-- Makes a service over a coordinator, which it holds. -/
def newService (s : ServiceId) (c : CoordinatorId) : Machine :=
  match w.services s, w.coordinators c with
  | none, some k =>
    let w := w.setCoordinator c { k with handles := k.handles + 1 }
    reply (w.setService s { coordinator := c }) stack .done
  | _, _ => reply w stack .absent

/-- Suspends the coordinator of a service, and then does what is left. -/
def suspendService (s : ServiceId) (after : CoordinatorId → After) : Machine :=
  match w.coordinatorOf s with
  | none => reply w stack .absent
  | some (c, _) => suspend w stack c (after c)

/-- Resumes the coordinator of a service, and then does what is left. -/
def resumeService (s : ServiceId) (after : CoordinatorId → After) : Machine :=
  match w.coordinatorOf s with
  | none => reply w stack .absent
  | some (c, _) => resume w stack c (after c)

/-- Asks a service for a shutdown, and answers. -/
def shutdown (s : ServiceId) (r : Reply) : Machine :=
  match w.services s with
  | none => reply w stack .absent
  | some x => reply (w.shutdown s x) stack r

/-- Starts a drain: a suspend and a first look. The drain holds the service. -/
def startDrain (d : DrainId) (s : ServiceId) (timeout : Span) : Machine :=
  match w.drains d, w.services s with
  | none, some x =>
    suspendService (w.setService s { x with handles := x.handles + 1 }) stack s fun _ =>
      .firstPoll d s timeout
  | _, _ => reply w stack .absent

/-- Looks at a drain that waits as if its deadline were `deadline`. -/
def pollAt (d : DrainId) (deadline : Drain → Nat) (late : World → DrainError → World) : Machine :=
  match w.drains d with
  | none => reply w stack .absent
  | some x =>
    match w.coordinatorOf x.service with
    | none => reply w stack .absent
    | some (_, k) =>
      match w.poll k { x with deadline := deadline x } with
      | (w, .pending) => reply w stack (.drain .pending)
      | (w, o) =>
        let w := match o with
          | .timedOut e => late w e
          | _ => w
        reply ({ w with drains := w.drains.erase d }.dropService x.service) stack (.drain o)

/-- Looks at a drain that waits. -/
def pollDrain (d : DrainId) : Machine := pollAt w stack d Drain.deadline fun w _ => w

/-- Ends a drain before a shutdown: what is still in flight goes to the log. -/
def giveUpDrain (d : DrainId) : Machine :=
  pollAt w stack d (fun _ => 0) fun w e => w.alert (.shutdownUnfinished e)

/-- Drops a drain that waits. -/
def cancelDrain (d : DrainId) : Machine :=
  match w.drains d with
  | none => reply w stack .absent
  | some x => reply ({ w with drains := w.drains.erase d }.dropService x.service) stack .done

end Sluice.Machine
