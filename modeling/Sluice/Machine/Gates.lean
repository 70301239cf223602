import Sluice.Machine.Control

/-!
# Gates, permits and tickets

* `acquire`: work comes in, or is turned away.
* `giveBack`, `letGo`, `releaseVia`, `releaseTicket`: the ways in which a permit comes back.
* `beginDrain`, `reopen`: a gate is closed or opened by its user.
-/

namespace Sluice.Machine

variable (w : World) (stack : List Activation)

/-- Makes a gate. -/
def newGate (g : GateId) (name : String) : Machine :=
  match w.gates g with
  | some _ => reply w stack .absent
  | none => reply (w.setGate g { name }) stack .done

/-- Asks a gate for a permit. -/
def acquire (g : GateId) (p : PermitId) : Machine :=
  match w.gates g, w.issuer p with
  | some x, none =>
    if x.isOpen then reply (w.letIn g x p) stack .done
    else
      let (w, callback) := w.turnAway g x
      fire w stack g callback (.reply (.refused (.draining x.name)))
  | _, _ => reply w stack .absent

/-- Takes a permit back at its gate, and answers whether it was out. -/
def giveBack (g : GateId) (p : PermitId) : Machine :=
  match w.gates g with
  | none => reply w stack .absent
  | some x =>
    match w.release g x p with
    | (w, .ok callback) => fire w stack g callback (.reply .done)
    | (w, .error e) => reply w stack (.refused e)

/-- Lets go of a permit, and then does what is left. -/
def letGo (p : Permit) (after : After) : Machine :=
  match w.gates p.gate with
  | none => finish w stack after
  | some x =>
    let (w, callback) := w.drop p.gate x p.id
    fire w stack p.gate callback after

/-- Gives a permit back through some gate. One of another gate is refused and let go of. -/
def releaseVia (g : GateId) (p : Permit) : Machine :=
  match w.gates g, w.gates p.gate with
  | some x, some y =>
    if p.gate = g then giveBack w stack g p.id
    else
      letGo (w.alert (.wrongGate x.name y.name p.id)) stack p
        (.reply (.refused (.wrongGate x.name p.id)))
  | _, _ => reply w stack .absent

/-- Gives the permit of a ticket back through some gate. -/
def releaseTicket (g : GateId) (t : Ticket) : Machine :=
  match w.gates g with
  | none => reply w stack .absent
  | some x =>
    if t.gate = g then giveBack w stack g t.permit
    else
      reply (w.alert (.wrongTicket x.name t.permit)) stack (.refused (.wrongGate x.name t.permit))

/-- Closes a gate: true if it is drained already, and then the code will not run. -/
def beginDrain (g : GateId) (code : CodeId) : Machine :=
  match w.gates g with
  | none => reply w stack .absent
  | some x =>
    let (w, drained) := w.beginDrain g x (.run code)
    reply w stack (.flag drained)

/-- Opens a gate. -/
def reopen (g : GateId) : Machine :=
  match w.gates g with
  | none => reply w stack .absent
  | some x => reply (w.reopen g x) stack .done

end Sluice.Machine
