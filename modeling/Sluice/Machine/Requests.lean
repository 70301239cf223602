import Sluice.Machine.Coordinators
import Sluice.Machine.Gates

/-!
# Requests

* `request`: answers a request, or leads it behind the gate of the application.
* `behindGate`: enters the application's code with a permit. `respond`: gives the permit back once there is an answer.
* `finishRequest`, `cancelRequest`: a request that waits goes on, or is dropped.
-/

namespace Sluice.Machine

open Http

variable (w : World) (stack : List Activation)

/-- Gives back the permit of a request that is answered. -/
def respond (p : Permit) (r : Response) : Machine :=
  match w.gates p.gate with
  | none => reply w stack (.response r)
  | some x =>
    match w.release p.gate x p.id with
    | (w, .ok callback) => fire w stack p.gate callback (.reply (.response r))
    | (w, .error e) => reply (w.alert (.lostRequest x.name e)) stack (.response r)

/-- Answers a request that a gate turns away. -/
def turnAway (g : GateId) (x : Gate) (edit : Edit) : Machine :=
  let (w, callback) := w.turnAway g x
  fire w stack g callback (.reply (.response (edit.apply (refusal x.name))))

/-- Does what an operator asks for. -/
def command (s : ServiceId) (c : Command) (head : Bool) : Machine :=
  match w.coordinatorOf s with
  | none => reply w stack .absent
  | some (_, k) =>
    match c with
    | .health => reply w stack (.response ((health (w.snapshot k)).behead head))
    | .state => reply w stack (.response ((shown 200 (w.snapshot k)).behead head))
    | .suspend => suspendService w stack s (.respond 202)
    | .resume => resumeService w stack s (.respond 200)
    | .shutdown => shutdown w stack s (.response stopping)

/-- Leads a request behind a gate: a permit is taken, also where the router answers by itself. -/
def behindGate (g : GateId) (l : Landing) (q : Request) (p : PermitId) : Machine :=
  match w.gates g, w.issuer p with
  | some x, none =>
    if x.isOpen then
      match l.own with
      | none => ⟨w.letIn g x p, .handler ⟨⟨p, g⟩, l.edit, q.path⟩ :: stack, .entered⟩
      | some r => respond (w.letIn g x p) stack ⟨p, g⟩ (l.edit.apply r)
    else turnAway w stack g x l.edit
  | _, _ => reply w stack .absent

/-- Answers a request, or enters code of the application. -/
def request (site : Site) (q : Request) (p : PermitId) : Machine :=
  match site.route q with
  | .command s c => command w stack s c q.isHead
  | .gated g l => behindGate w stack g l q p
  | .own r => reply w stack (.response r)

/-- Enters the handler of a request that waits. -/
def finishRequest (r : RequestId) : Machine :=
  match w.waiting r with
  | none => reply w stack .absent
  | some a => ⟨{ w with waiting := w.waiting.erase r }, .handler a :: stack, .entered⟩

/-- Drops a request that waits. -/
def cancelRequest (r : RequestId) : Machine :=
  match w.waiting r with
  | none => reply w stack .absent
  | some a => letGo { w with waiting := w.waiting.erase r } stack a.permit (.reply .done)

end Sluice.Machine
