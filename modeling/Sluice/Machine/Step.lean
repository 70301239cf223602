import Sluice.Machine.Requests

/-!
# The moves of the machine

* `perform`: calls an operation.
* `Move`, `step`, `run`: the innermost code calls an operation, comes back, panics, or puts a request
  off.
-/

namespace Sluice.Machine

open Http

variable (w : World) (stack : List Activation)

/-- Calls an operation. -/
def perform : Op → Machine
  | .newGate g name => newGate w stack g name
  | .acquire g p => acquire w stack g p
  | .release p => giveBack w stack p.gate p.id
  | .releaseVia g p => releaseVia w stack g p
  | .drop p => letGo w stack p (.reply .done)
  | .releaseTicket g t => releaseTicket w stack g t
  | .beginDrain g code => beginDrain w stack g code
  | .reopen g => reopen w stack g
  | .newCoordinator c => newCoordinator w stack c
  | .shareCoordinator c => shareCoordinator w stack c
  | .dropCoordinator c => reply (w.dropCoordinator c) stack .done
  | .suspend c => suspend w stack c (.reply .done)
  | .resume c => resume w stack c (.reply .done)
  | .registerGate c g name => registerGate w stack c g name
  | .addGate c g => addGate w stack c g
  | .removeGate c g => removeGate w stack c g
  | .addListener c l offer => addListener w stack c l offer
  | .removeListener c l => removeListener w stack c l
  | .newService s c => newService w stack s c
  | .dropService s => reply (w.dropService s) stack .done
  | .suspendService s => suspendService w stack s .snapshot
  | .resumeService s => resumeService w stack s .snapshot
  | .shutdown s => shutdown w stack s .done
  | .startDrain d s timeout => startDrain w stack d s timeout
  | .pollDrain d => pollDrain w stack d
  | .giveUpDrain d => giveUpDrain w stack d
  | .cancelDrain d => cancelDrain w stack d
  | .request site q p => request w stack site q p
  | .finishRequest r => finishRequest w stack r
  | .cancelRequest r => cancelRequest w stack r
  | .advance nanos => reply { w with clock := w.clock + nanos } stack .done

/-- A move of the innermost code. -/
inductive Move
  | call (op : Op)
  /-- It comes back. The response counts only for a handler. -/
  | ret (r : Response)
  | panic (payload : Payload)
  /-- A handler waits. -/
  | park (r : RequestId)

/-- The innermost code comes back. -/
def ret (r : Response) : List Activation → Machine
  | [] => ⟨w, [], .replied .done⟩
  | .callback _ _ after :: rest => finish w rest after
  | .hook c h _ others after :: rest => nextHook w rest c h others after
  | .handler a :: rest => respond w rest a.permit (a.edit.apply r)

/-- The innermost code panics. A listener's panic goes to the log only, a handler's permit is let go
of. A callback's panic leaves the operation, and while another panic is on its way it is the end. -/
def panic (payload : Payload) : List Activation → Machine
  | [] => ⟨w, [], .raised payload⟩
  | .callback _ _ (.raise _) :: rest => ⟨w, rest, .aborted⟩
  | .callback _ _ _ :: rest => ⟨w, rest, .raised payload⟩
  | .hook c h l others after :: rest =>
    nextHook (w.alert (.listenerPanicked l.name h.name payload)) rest c h others after
  | .handler a :: rest => letGo w rest a.permit (.raise payload)

/-- The innermost code, a handler, waits. -/
def park (r : RequestId) : List Activation → Machine
  | .handler a :: rest =>
    match w.waiting r with
    | none => ⟨{ w with waiting := w.waiting.set r a }, rest, .replied .waiting⟩
    | some _ => ⟨w, .handler a :: rest, .replied .absent⟩
  | stack => ⟨w, stack, .replied .absent⟩

/-- A move. Nothing moves any more once the program is over. -/
def step (m : Machine) (move : Move) : Machine :=
  if m.signal = .aborted then m
  else
    match move with
    | .call op => perform m.world m.stack op
    | .ret r => ret m.world r m.stack
    | .panic payload => panic m.world payload m.stack
    | .park r => park m.world r m.stack

/-- Moves one after another. -/
def run (m : Machine) (moves : List Move) : Machine := moves.foldl step m

end Sluice.Machine
