import Sluice.Address
import Sluice.Config
import Sluice.Http.Percent
import Sluice.Machine.Step

/-!
# The server

The server has one coordinator, with one gate before an application that only works for a while, and
the operator's routes beside it.

* `Server.start`: the server of an environment, or why it does not start.
* `Server.work`: what the application answers.
* `Server.send`: a request. `Server.signal`: a signal from outside.
* `Session.run`: requests one after another, and then the end.
-/

namespace Sluice

open Http

/-- Why a server does not start. -/
inductive StartError
  | config (e : ConfigError)
  | address (e : Address.Fault)
  deriving DecidableEq

/-- The text of an error. -/
def StartError.message : StartError → String
  | config e => e.message
  | address e => e.message

/-- A server that has been started. -/
structure Server where
  config : ServerConfig
  machine : Machine
  /-- The number of the next permit. -/
  supply : Nat := 2
  /-- Whether it has ended. -/
  ended : Bool := false

/-- A signal from outside. -/
inductive ProcessSignal
  | interrupt
  | terminate
  deriving DecidableEq

/-- The number of a signal. -/
def ProcessSignal.number : ProcessSignal → Nat
  | interrupt => 2
  | terminate => 15

/-- How a server has ended, if it has. -/
inductive Ending
  | running
  | exited (code : Nat)
  | killed (s : ProcessSignal)
  deriving DecidableEq

namespace Server

/-- The gate before the application. -/
def gate : GateId := ⟨Uuid.nth 1⟩

/-- The coordinator, and the service over it. -/
def coordinator : CoordinatorId := ⟨0⟩
def service : ServiceId := ⟨0⟩

/-- What is served. -/
def site : Site := { service := some service, app := some ⟨gate, .get (.under "/work/")⟩ }

/-- What is there at the start. -/
def setup : List Op :=
  [.newCoordinator coordinator, .registerGate coordinator gate "http", .newService service coordinator,
    .dropCoordinator coordinator]

/-- The server of an environment. -/
def start (date : String) (env : ServerConfig.Environment) : Except StartError Server :=
  match ServerConfig.ofEnvironment env with
  | .error e => .error (.config e)
  | .ok config =>
    match Address.listen config.host config.port with
    | .error e => .error (.address e)
    | .ok _ =>
      .ok { config, machine := Machine.run { world := { date } } (setup.map .call) }

/-- The longest time, in milliseconds, that a request takes. -/
def maxWork : Nat := 60000

/-- How long a path asks the application to work, or what is wrong with it. -/
def workTime (path : String) : Except String Nat :=
  match percentDecode? (path.toList.drop 6) with
  | none => .error "Invalid UTF-8 in `millis`"
  | some text =>
    match readBounded wordBound text.toList with
    | .ok n => .ok (min n maxWork)
    | .error _ => .error ("Cannot parse `" ++ text ++ "` to a `u64`")

/-- What the application answers. -/
def work (path : String) : Response :=
  match workTime path with
  | .ok n => .text 200 ("worked " ++ toString n ++ "ms\n")
  | .error e => .text 400 ("Invalid URL: " ++ e)

/-- Ends the server: its gates are drained first, for as long as the settings allow. -/
def close (s : Server) : Server :=
  let m := s.machine.step (.call (.startDrain ⟨0⟩ service s.config.drainTimeout))
  let m := if m.signal = .replied (.drain .pending) then m.step (.call (.giveUpDrain ⟨0⟩)) else m
  { s with machine := m, ended := true }

/-- Whether a shutdown has been asked for. -/
def isShutdown (s : Server) : Bool :=
  match s.machine.world.services service with
  | some x => x.shutdown
  | none => false

/-- Sends a request and waits for the response. Nobody answers once the server has ended. -/
def send (s : Server) (q : Request) : Server × Option Response :=
  if s.ended then (s, none)
  else
    let m := s.machine.step (.call (.request site q ⟨Uuid.nth s.supply⟩))
    let m := if m.signal = .entered then m.step (.ret (work q.path)) else m
    let s := { s with machine := m, supply := s.supply + 1 }
    let r := match m.signal with
      | .replied (.response r) => some r
      | _ => none
    (if s.isShutdown then s.close else s, r)

/-- Sends a signal. A server that waits for an explicit shutdown does not listen to termination. -/
def signal (s : Server) (x : ProcessSignal) : Server × Ending :=
  if s.ended then (s, .exited 0)
  else if x = .terminate ∧ s.config.awaitExplicitShutdown then ({ s with ended := true }, .killed x)
  else (s.close, .exited 0)

end Server

/-- What is seen of a server from outside. -/
structure Session where
  started : Bool
  /-- A response for each request that got one. -/
  responses : List (Option Response)
  ending : Ending
  errors : List String

namespace Session

/-- Sends requests of a method and a target one after another. -/
def sendAll (s : Server) : List (String × String) → Server × List (Option Response)
  | [] => (s, [])
  | (method, target) :: rest =>
    let (s, r) := match Request.ofParts? method target with
      | some q => s.send q
      | none => (s, none)
    let (s, rs) := sendAll s rest
    (s, r :: rs)

/-- Starts a server, sends requests, and ends it by a signal or else by one more request. -/
def run (date : String) (env : ServerConfig.Environment) (requests : List (String × String))
    (stop : Option ProcessSignal) : Session :=
  match Server.start date env with
  | .error e => ⟨false, [], .exited 1, ["Error: " ++ e.message]⟩
  | .ok s =>
    match stop with
    | some x =>
      let (s, rs) := sendAll s requests
      ⟨true, rs, (s.signal x).2, []⟩
    | none =>
      let (s, rs) := sendAll s (requests ++ [("POST", Command.shutdown.path)])
      ⟨true, rs, if s.ended then .exited 0 else .running, []⟩

end Session

end Sluice
