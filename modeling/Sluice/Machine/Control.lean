import Sluice.Machine.Basic

/-!
# Into a caller's code and back

* `finish`: does what is left of an operation.
* `dispatch`, `deliver`, `nextHook`: the hooks of a coordinator, one after another. A delivery that is
  under way takes over what is queued meanwhile.
* `fire`: the callback of a gate that is drained.
-/

namespace Sluice.Machine

open Http

variable (w : World) (stack : List Activation)

/-- Comes back from an operation. -/
def reply (r : Reply) : Machine := ⟨w, stack, .replied r⟩

/-- The first look at a drain: its time starts now. -/
def firstPoll (d : DrainId) (s : ServiceId) (timeout : Span) : Machine :=
  match w.coordinatorOf s with
  | none => reply w stack .absent
  | some (_, k) =>
    let x : Drain := ⟨s, timeout, w.clock + timeout.toNanos⟩
    match w.poll k x with
    | (w, .pending) => reply { w with drains := w.drains.set d x } stack (.drain .pending)
    | (w, o) => reply (w.dropService s) stack (.drain o)

/-- Does what is left of an operation. -/
def finish : After → Machine
  | .reply r => reply w stack r
  | .snapshot c =>
    match w.coordinators c with
    | none => reply w stack .absent
    | some k => reply w stack (.snapshot (w.snapshot k))
  | .respond status c =>
    match w.coordinators c with
    | none => reply w stack .absent
    | some k => reply w stack (.response (shown status (w.snapshot k)))
  | .firstPoll d s timeout => firstPoll w stack d s timeout
  | .raise payload => ⟨w, stack, .raised payload⟩

/-- Enters a listener's hook. -/
def enterHook (c : CoordinatorId) (h : Hook) (l : Listener) (others : List Listener) (after : After) :
    Machine :=
  ⟨w.note (.called c h l), .hook c h l others after :: stack, .entered⟩

/-- Delivers the next hook that is queued, or ends the delivery. -/
def deliver (c : CoordinatorId) (after : After) : Machine :=
  match w.coordinators c with
  | none => finish w stack after
  | some k =>
    match k.outbox with
    | [] => finish (w.setCoordinator c { k with dispatching := false }) stack after
    | n :: rest =>
      enterHook (w.setCoordinator c { k with outbox := rest }) stack c n.hook n.first n.others after

/-- Delivers the hooks that are queued, unless a delivery is under way: that one will see to them. -/
def dispatch (c : CoordinatorId) (after : After) : Machine :=
  match w.coordinators c with
  | none => finish w stack after
  | some k =>
    if k.dispatching then finish w stack after
    else deliver (w.setCoordinator c { k with dispatching := true }) stack c after

/-- Goes on to the next listener of a hook. -/
def nextHook (c : CoordinatorId) (h : Hook) (others : List Listener) (after : After) : Machine :=
  match others with
  | [] => deliver w stack c after
  | l :: ls => enterHook w stack c h l ls after

/-- Runs the callback of a gate that is drained. A coordinator that nobody holds any more is not
told. -/
def fire (g : GateId) (callback : Option DrainCallback) (after : After) : Machine :=
  match callback with
  | none => finish w stack after
  | some cb =>
    let w := w.note (.fired g cb)
    match cb with
    | .run code => ⟨w, .callback g code after :: stack, .entered⟩
    | .report c generation =>
      match w.coordinators c with
      | none => finish w stack after
      | some k =>
        if k.isAlive then dispatch (w.drained c k generation g) stack c after
        else finish w stack after

end Sluice.Machine
