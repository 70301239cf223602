import Sluice.Machine.Step
import Sluice.Script.Plan

/-!
# Running a script

The code that the machine enters is the script's: its steps run, each with what it enters in its turn,
and then the code comes back or panics. `fuel` bounds how deep and how far this goes.

* `perform`: a step to its end. `settle`: all that the last move has entered.
* `play`: a whole script.
-/

namespace Sluice.Script

namespace Stage

/-- Makes a move. -/
def move (s : Stage) (m : Machine.Move) : Stage := { s with machine := s.machine.step m }

/-- What a handler answers: how much work its gate has let in. -/
def count (s : Stage) (g : GateId) : Http.Response :=
  .text 200 (toString (((s.world.gates g).map Gate.outstanding).getD 0))

/-- What the innermost code starts with: what it reports, the steps that it runs, and the move with
which it comes back. `none` if a handler has to wait. -/
def enter (s : Stage) : Stage × Option (List Step × (Stage → Machine.Move)) :=
  match s.machine.stack with
  | [] => (s, some ([], fun _ => .ret {}))
  | .callback g code _ :: _ =>
    match s.callbacks code, s.world.gates g with
    | some x, some gate =>
      (s.report (.callback x.label gate.state gate.outstanding), some (x.body, fun _ => .ret {}))
    | _, _ => (s, some ([], fun _ => .ret {}))
  | .hook _ h l _ _ :: _ =>
    match s.actors l.id with
    | none => (s, some ([], fun _ => .ret {}))
    | some a =>
      if a.plain then (s, some ([], fun _ => .ret {}))
      else
        let s := s.report (.hook h a.label (s.glance? a.coordinator))
        let r := a.reaction h
        if 0 < r.left then
          ({ s with actors := s.actors.set l.id (a.spend h) }, some (r.body, fun _ => .ret {}))
        else (s, some ([], fun _ => .ret {}))
  | .handler a :: _ =>
    match s.handlers a.permit.id with
    | none => (s, some ([], fun s => .ret (s.count a.permit.gate)))
    | some h =>
      match h.wait with
      | some r =>
        let s := { s with handlers := s.handlers.set a.permit.id { h with wait := none } }
        (s.move (.park r), none)
      | none => (s, some (h.body, fun s => .ret (s.count a.permit.gate)))

end Stage

mutual

/-- Follows a plan to its answer. -/
def follow (fuel : Nat) (plan : Plan) : Stage × Answer :=
  match fuel, plan with
  | _, .answer s a => (s, a)
  | 0, .call s _ _ => (s, .nothing)
  | fuel + 1, .call s op next =>
    let s := settle fuel (s.move (.call op))
    match s.machine.signal with
    | .replied r => follow fuel (next s r)
    | .raised payload => (s, .panicked payload)
    | _ => (s, .nothing)

/-- Runs code until an operation comes back. -/
def settle (fuel : Nat) (s : Stage) : Stage :=
  match fuel with
  | 0 => s
  | fuel + 1 =>
    if s.machine.signal = .entered then
      match s.enter with
      | (s, none) => s
      | (s, some (body, back)) =>
        match nested fuel s body with
        | (s, none) => settle fuel (s.move (back s))
        | (s, some payload) => settle fuel (s.move (.panic payload))
    else s

/-- Runs steps inside a piece of code, until one of them panics out of it. -/
def nested (fuel : Nat) (s : Stage) (body : List Step) : Stage × Option Payload :=
  match fuel, body with
  | _, [] => (s, none)
  | _, .panic payload :: _ => (s, some payload)
  | 0, _ => (s, none)
  | fuel + 1, step :: rest =>
    let (s, a) := follow fuel (s.plan step)
    nested fuel (s.report (.step step.name a)) rest

end

/-- Runs a step to its end. -/
def perform (fuel : Nat) (s : Stage) (step : Step) : Stage × Answer := follow fuel (s.plan step)

/-- How the labelled gates stand. -/
def Stage.gateStates (s : Stage) : List (String × GateState × Int) :=
  s.gates.filterMap fun x => (s.world.gates x.2).map fun g => (x.1, g.state, g.outstanding)

/-- How the labelled coordinators stand. -/
def Stage.glances (s : Stage) : List (String × Glance) :=
  s.coordinators.filterMap fun x => (s.world.coordinators x.2).map fun k => (x.1, Stage.glanceAt k)

/-- The alerts among what has happened. -/
def alerts (journal : List Occurrence) : List Alert :=
  journal.filterMap fun o =>
    match o with
    | .alerted a => some a
    | _ => none

/-- Runs a step of a script, with all that it leads to. -/
def act (fuel : Nat) (s : Stage) (step : Step) : Stage × Outcome :=
  let before := s.world.journal.length
  let (s, a) := perform fuel { s with events := [] } step
  let news := s.world.journal.take (s.world.journal.length - before)
  (s, ⟨a, s.gateStates, s.glances, s.events.reverse, (alerts news).reverse.map Alert.record⟩)

/-- Runs the steps of a script one after another. -/
def playFrom (fuel : Nat) (s : Stage) : List Step → List Outcome × Stage
  | [] => ([], s)
  | step :: rest =>
    let (s, o) := act fuel s step
    let (os, s) := playFrom fuel s rest
    (o :: os, s)

mutual

/-- The number of steps that a step can run, itself included. -/
def weight : Step → Nat
  | .beginDrain _ _ body => 1 + weights body
  | .listener _ _ _ _ limit started complete resumed =>
    1 + limit * (weights started + weights complete + weights resumed)
  | .http _ _ _ _ body _ => 1 + weights body
  | _ => 1

/-- The number of steps that steps can run. -/
def weights : List Step → Nat
  | [] => 0
  | step :: rest => weight step + weights rest

end

/-- A bound on all that can go on in a step: each step that runs makes few calls, each call at most
two transitions, and each transition calls each subscription once. -/
def fuelFor (steps : List Step) : Nat :=
  let n := weights steps + 2
  8 * n * n

/-- Runs a whole script. Snapshots write the moment as `date`. -/
def play (date : String) (steps : List Step) : List Outcome × Stage :=
  playFrom (fuelFor steps) { machine := { world := { date } } } steps

end Sluice.Script
