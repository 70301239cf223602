import Sluice.Pool.Machine

/-!
# Scripts for a pool

A script uses a pool of numbers step by step. The factory hands out 0, 1, 2, … and may have scripts of
its own for what is to happen when it is called.

* `Step`, `Answer`, `Event`: a step, what it gives, and what the factory reports.
* `drive`: a caller runs until its call comes back. Others that have been started go on while it waits,
  and the clock only goes when nothing else can happen.
* `play`: a whole script.
-/

namespace Sluice.Pool.Script

/-- A step. -/
inductive Step
  | get
  | release (obj : Nat)
  | discard (obj : Nat)
  | stop
  | setMaxSize (n : Nat)
  | drop
  /-- The next creation runs these steps, and then panics or fails if it is to. -/
  | onCreate (body : List Step) (panic : Option Payload) (fail : Option Failure)
  /-- The next destruction runs these steps, and then panics if it is to. -/
  | onDestroy (body : List Step) (panic : Option Payload)
  | info
  /-- So many others ask for an object and may wait, then these steps run, then the others end. -/
  | blockedGet (n : Nat) (body : List Step)
  | unknown (name : String)
  deriving Inhabited

/-- The name of a step. -/
def Step.name : Step → String
  | get => "get"
  | release _ => "release"
  | discard _ => "discard"
  | stop => "stop"
  | setMaxSize _ => "set_max_size"
  | drop => "drop"
  | onCreate .. => "on_create"
  | onDestroy .. => "on_destroy"
  | info => "info"
  | blockedGet .. => "blocked_get"
  | unknown name => name

/-- What a step gives. -/
inductive Answer
  | nothing
  | result (r : Result Nat)
  | info (p : Pool Nat)
  | blocked (blocked : List Bool) (during : List Answer) (got : List (Result Nat))
  | dropped
  | unfit (what : String)

/-- What the factory reports. While the pool is being dropped it does not see the counters. -/
inductive Event
  | create (stats : Option Stats)
  | destroy (obj : Nat) (stats : Option Stats)
  | step (name : String) (answer : Answer)

/-- What the factory is to do when it is called. -/
structure Rule where
  body : List Step := []
  panic : Option Payload := none
  fail : Option Failure := none

/-- The pool with all that a script knows of it. -/
structure Stage where
  machine : Machine Nat
  nextObj : Nat := 0
  supply : Nat := 0
  creations : List Rule := []
  destructions : List Rule := []
  /-- The callers that have been started and have not been collected. -/
  others : List CallerId := []
  /-- The callers whose calls are under way. -/
  active : List CallerId := []
  /-- Those for whom the factory is at work now. -/
  busy : List CallerId := []
  dropping : Bool := false
  dropped : Bool := false
  /-- The events of the step that runs, newest first. -/
  events : List Event := []

namespace Stage

def move (s : Stage) (x : Machine.Move Nat) : Stage := { s with machine := s.machine.step x }

def report (s : Stage) (e : Event) : Stage := { s with events := e :: s.events }

/-- The counters, unless the pool is being dropped. -/
def stats? (s : Stage) : Option Stats := if s.dropping then none else some s.machine.pool.stats

/-- A new caller starts a call. -/
def start (s : Stage) (k : Call Nat) : CallerId × Stage :=
  let c : CallerId := ⟨s.supply⟩
  (c, { s with supply := s.supply + 1, active := c :: s.active }.move (.call c k))

/-- A call has come back. -/
def leave (s : Stage) (c : CallerId) : Stage := { s with active := s.active.filter (· ≠ c) }

/-- What a call has come back with. -/
def result? (s : Stage) (c : CallerId) : Option (Result Nat) :=
  match s.machine.callers c with
  | some (.returned r) => some r
  | _ => none

def isBlocked (s : Stage) (c : CallerId) : Bool :=
  match s.machine.callers c with
  | some (.blocked _) => true
  | _ => false

/-- Whether one of the others can go on. -/
def canRun (s : Stage) (c : CallerId) : Bool :=
  (s.result? c).isNone && !s.isBlocked c && !s.busy.contains c

/-- When a caller that waits gives up. -/
def deadline? (s : Stage) (c : CallerId) : Option Nat :=
  match s.machine.callers c with
  | some (.blocked deadline) => deadline
  | _ => none

/-- Lets the time pass until the first of those who wait gives up. -/
def sleep? (s : Stage) : Option Stage :=
  match (s.active.filterMap s.deadline?).min? with
  | none => none
  | some t =>
    let s := s.move (.tick (t - s.machine.clock))
    let late := s.active.filter fun c =>
      match s.deadline? c with
      | some d => d ≤ s.machine.clock
      | none => false
    some (late.foldl (fun s c => s.move (.resume c)) s)

/-- What the factory is to do at the next creation. -/
def nextCreation (s : Stage) : Rule × Stage :=
  match s.creations with
  | [] => ({}, s)
  | r :: rest => (r, { s with creations := rest })

/-- What the factory is to do at the next destruction. -/
def nextDestruction (s : Stage) : Rule × Stage :=
  match s.destructions with
  | [] => ({}, s)
  | r :: rest => (r, { s with destructions := rest })

/-- How a creation ends. An object is used up only if it is made. -/
def make (s : Stage) (r : Rule) : Machine.Work Nat × Stage :=
  match r.panic, r.fail with
  | some payload, _ => (.panicked payload, s)
  | none, some f => (.failed f, s)
  | none, none => (.made s.nextObj, { s with nextObj := s.nextObj + 1 })

/-- How a destruction ends. -/
def unmake (r : Rule) : Machine.Work Nat :=
  match r.panic with
  | some payload => .panicked payload
  | none => .destroyed

end Stage

/-- The answer of a call. -/
def Answer.ofResult : Result Nat → Answer
  | .done => .nothing
  | r => .result r

mutual

/-- A caller goes on by one step. -/
def goOn (fuel : Nat) (s : Stage) (c : CallerId) : Stage :=
  match fuel with
  | 0 => s
  | fuel + 1 =>
    match s.machine.callers c with
    | some .creating =>
      let (r, s) := (s.report (.create s.stats?)).nextCreation
      let s := factory fuel s c r.body
      let (w, s) := s.make r
      s.move (.worked c w)
    | some (.destroying obj _) =>
      let (r, s) := (s.report (.destroy obj s.stats?)).nextDestruction
      let s := factory fuel s c r.body
      s.move (.worked c (Stage.unmake r))
    | _ => s.move (.resume c)

/-- The factory runs steps for a caller. -/
def factory (fuel : Nat) (s : Stage) (c : CallerId) (body : List Step) : Stage :=
  match fuel with
  | 0 => s
  | fuel + 1 =>
    if s.dropping then s
    else
      let s := nested fuel { s with busy := c :: s.busy } body
      { s with busy := s.busy.filter (· ≠ c) }

/-- Runs steps one after another, and reports each. -/
def nested (fuel : Nat) (s : Stage) (body : List Step) : Stage :=
  match fuel, body with
  | _, [] => s
  | 0, _ => s
  | fuel + 1, step :: rest =>
    let (s, a) := perform fuel s step
    nested fuel (s.report (.step step.name a)) rest

/-- A caller runs until its call comes back. -/
def drive (fuel : Nat) (s : Stage) (c : CallerId) : Stage × Result Nat :=
  match fuel with
  | 0 => (s, .done)
  | fuel + 1 =>
    match s.result? c with
    | some r => (s.leave c, r)
    | none =>
      if s.isBlocked c then
        match s.others.find? s.canRun with
        | some t => drive fuel (goOn fuel s t) c
        | none =>
          match s.sleep? with
          | some s => drive fuel s c
          | none => (s, .done)
      else drive fuel (goOn fuel s c) c

/-- One of the others runs until it waits or its call comes back. -/
def settle (fuel : Nat) (s : Stage) (c : CallerId) : Stage :=
  match fuel with
  | 0 => s
  | fuel + 1 => if s.canRun c then settle fuel (goOn fuel s c) c else s

/-- All the others run until each waits or has come back. -/
def serve (fuel : Nat) (s : Stage) : Stage :=
  match fuel with
  | 0 => s
  | fuel + 1 =>
    match s.others.find? s.canRun with
    | some t => serve fuel (goOn fuel s t)
    | none => s

/-- Starts so many others, and tells which of them wait. -/
def startOthers (fuel : Nat) (s : Stage) (n : Nat) : Stage × List Bool :=
  match fuel, n with
  | _, 0 => (s, [])
  | 0, _ => (s, [])
  | fuel + 1, n + 1 =>
    let (c, s) := s.start .get
    let s := settle fuel { s with others := s.others ++ [c] } c
    let blocked := s.isBlocked c
    let (s, rest) := startOthers fuel s n
    (s, blocked :: rest)

/-- Runs steps while others wait, and lets these go on after each. -/
def meanwhile (fuel : Nat) (s : Stage) (body : List Step) : Stage × List Answer :=
  match fuel, body with
  | _, [] => (s, [])
  | 0, _ => (s, [])
  | fuel + 1, step :: rest =>
    let (s, a) := perform fuel s step
    let (s, as) := meanwhile fuel (serve fuel s) rest
    (s, a :: as)

/-- Waits for others, one after another. -/
def collect (fuel : Nat) (s : Stage) (callers : List CallerId) : Stage × List (Result Nat) :=
  match fuel, callers with
  | _, [] => (s, [])
  | 0, _ => (s, [])
  | fuel + 1, c :: rest =>
    let (s, r) := drive fuel s c
    let (s, rs) := collect fuel { s with others := s.others.filter (· ≠ c) } rest
    (s, r :: rs)

/-- Runs a step to its end. -/
def perform (fuel : Nat) (s : Stage) (step : Step) : Stage × Answer :=
  match fuel with
  | 0 => (s, .nothing)
  | fuel + 1 =>
    if s.dropped then (s, .dropped)
    else
      let ask (s : Stage) (k : Call Nat) : Stage × Answer :=
        let (c, s) := s.start k
        let (s, r) := drive fuel s c
        (s, .ofResult r)
      match step with
      | .get => ask s .get
      | .release obj => ask s (.release obj)
      | .discard obj => ask s (.discard obj)
      | .stop => ask s .stop
      | .setMaxSize n => ask s (.setMaxSize n)
      | .drop =>
        let (s, a) := ask { s with dropping := true } .stop
        ({ s with dropped := true }, a)
      | .onCreate body panic fail =>
        ({ s with creations := s.creations ++ [⟨body, panic, fail⟩] }, .nothing)
      | .onDestroy body panic =>
        ({ s with destructions := s.destructions ++ [⟨body, panic, none⟩] }, .nothing)
      | .info => (s, .info s.machine.pool)
      | .blockedGet n body =>
        let before := s.others
        let (s, blocked) := startOthers fuel s n
        let (s, during) := meanwhile fuel s body
        let (s, got) := collect fuel s (s.others.filter fun c => !before.contains c)
        (s, .blocked blocked during got)
      | .unknown _ => (s, .unfit "op")

end

/-- All that a step leads to. The events of several callers come in no fixed order. -/
structure Outcome where
  answer : Answer
  pool : Option (Pool Nat)
  events : List Event
  unordered : Bool
  log : List Record

/-- Runs a step of a script, with all that it leads to. -/
def act (fuel : Nat) (s : Stage) (step : Step) : Stage × Outcome :=
  let before := s.machine.journal.length
  let (s, a) := perform fuel { s with events := [] } step
  let news := s.machine.journal.take (s.machine.journal.length - before)
  let unordered := match step with
    | .blockedGet .. => true
    | _ => false
  (s, ⟨a, if s.dropped then none else some s.machine.pool, s.events.reverse, unordered,
    (news.filterMap Occurrence.record?).reverse⟩)

/-- Runs the steps of a script one after another. -/
def playFrom (fuel : Nat) (s : Stage) : List Step → List Outcome
  | [] => []
  | step :: rest =>
    let (s, o) := act fuel s step
    o :: playFrom fuel s rest

mutual

/-- The number of steps that a step can run, itself and the callers that it starts included. -/
def weight : Step → Nat
  | .onCreate body _ _ => 1 + weights body
  | .onDestroy body _ => 1 + weights body
  | .blockedGet n body => 1 + n + weights body
  | _ => 1

/-- The number of steps that steps can run. -/
def weights : List Step → Nat
  | [] => 0
  | step :: rest => weight step + weights rest

end

/-- A bound on all that can go on in a step: each caller goes on a few times for each change that
another one makes. -/
def fuelFor (steps : List Step) : Nat :=
  let n := weights steps + 2
  16 * n * n

/-- Runs a whole script with a new pool. -/
def play (config : PoolConfig) (steps : List Step) : List Outcome :=
  playFrom (fuelFor steps) { machine := { pool := .ofConfig config } } steps

end Sluice.Pool.Script
