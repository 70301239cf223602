import Sluice.Pool.Machine

/-!
# The accesses of a pool's callers

A call reads and writes the counters, the cap and the queue of a pool one after another, and holds no lock
meanwhile: other callers come in between. Only those who wait, and those who wake them, hold the monitor. So a
step is here one access of one caller, and all accesses take effect one after another. A `Machine` has callers
that take turns; its moves are uninterrupted series of these accesses.

* `Place`: which access comes next. `Next`: what follows when a slot has been given back.
* `Shared`: a pool with its monitor and its callers. `Shared.access`: the next access of a caller.
* `Shared.Move`, `Shared.step`, `Shared.run`: what can happen.
-/

namespace Sluice.Pool

/-- What a caller does when it has given a slot back, or has let the others know of one. -/
inductive Next (α : Type)
  | done (r : Result α)
  /-- It destroys the other idle objects. -/
  | clear
  /-- It destroys an object that it has discarded. -/
  | destroy (obj : α)
  deriving DecidableEq

/-- What a caller is about to do. -/
inductive Place (α : Type)
  /-- Take an idle object. -/
  | taking (deadline : Option Nat)
  /-- Read the cap. -/
  | reading (deadline : Option Nat)
  /-- Take a slot, if there is one under the cap that was read. -/
  | raising (cap : Nat) (deadline : Option Nat)
  /-- Lock the monitor before it waits. -/
  | locking (deadline : Option Nat)
  /-- Count itself among those who wait. -/
  | counting (deadline : Option Nat)
  /-- Take an idle object after all. -/
  | retaking (deadline : Option Nat)
  /-- Read the cap once more. -/
  | rereading (deadline : Option Nat)
  /-- Read whether there is a slot under the cap that was read. -/
  | comparing (cap : Nat) (deadline : Option Nat)
  /-- Look at the clock, and wait or give up. -/
  | resigning (deadline : Option Nat)
  /-- Nothing until it is woken: it waits, without the monitor. -/
  | asleep (deadline : Option Nat)
  /-- Lock the monitor after it has been woken. -/
  | relocking (deadline : Option Nat)
  /-- Count itself no more among those who wait. Without a result it starts anew. -/
  | uncounting (r : Option (Result α)) (deadline : Option Nat)
  | unlocking (r : Option (Result α)) (deadline : Option Nat)
  /-- Nothing until the factory has made an object. -/
  | creating
  /-- Give a slot back. -/
  | freeing (next : Next α)
  /-- Read whether there were as many slots taken as the cap allows. -/
  | weighing (previous : Nat) (next : Next α)
  /-- Read whether anybody waits. -/
  | alerting (next : Next α)
  /-- Lock the monitor before it wakes those who wait. -/
  | calling (next : Next α)
  /-- Wake all who wait. -/
  | waking (next : Next α)
  | leaving (next : Next α)
  /-- Put an object among the idle ones. -/
  | pushing (obj : α)
  /-- Read the cap when an object has been kept. -/
  | kept
  /-- Read whether as many slots are taken as the cap that was read allows. -/
  | keptUnder (cap : Nat)
  /-- Count an object as removed, and pass it to the factory. -/
  | removing (obj : α) (errand : Errand)
  /-- Nothing until the factory has destroyed an object. -/
  | destroying (obj : α) (errand : Errand)
  /-- Take an idle object to destroy it. -/
  | clearing
  /-- Change the cap. -/
  | capping (n : Nat)
  | returned (r : Result α)
  deriving DecidableEq

/-- Where a caller goes on when it has given a slot back. -/
def Next.place {α : Type} : Next α → Place α
  | done r => .returned r
  | clear => .clearing
  | destroy obj => .removing obj .discard

/-- A pool with its monitor, its callers, the clock in milliseconds, and what has happened, newest first. -/
structure Shared (α : Type) where
  pool : Pool α
  /-- How many callers wait or are about to, as they have counted themselves. -/
  waiters : Nat := 0
  /-- Who holds the monitor. -/
  monitor : Option CallerId := none
  callers : Table CallerId (Place α) := .empty
  clock : Nat := 0
  journal : List (Occurrence α) := []

namespace Shared

variable {α : Type} (m : Shared α)

/-- A pool of these settings that nobody has used yet. -/
def ofConfig (c : PoolConfig) : Shared α := { pool := Pool.ofConfig c }

def note (o : Occurrence α) : Shared α := { m with journal := o :: m.journal }

/-- Puts a caller into a place. -/
def put (c : CallerId) (p : Place α) : Shared α := { m with callers := m.callers.set c p }

/-- A caller that waits is woken. -/
def rouse : Place α → Place α
  | .asleep deadline => .relocking deadline
  | p => p

/-- Wakes all callers that wait. -/
def rouseAll : Shared α := { m with callers := fun c => (m.callers c).map rouse }

/-- Takes the oldest idle object. -/
def take (rest : List α) (o : Occurrence α) : Shared α := { m with pool := { m.pool with idle := rest } }.note o

/-- A caller takes the monitor, if nobody has it, and else tries again. -/
def lock (c : CallerId) (p : Place α) : Shared α :=
  if m.monitor = none then { m with monitor := some c }.put c p else m

def unlock (c : CallerId) (p : Place α) : Shared α := { m with monitor := none }.put c p

/-- What a caller does next at a place. -/
def go (c : CallerId) : Place α → Shared α
  | .taking deadline =>
    match m.pool.idle with
    | obj :: rest => (m.take rest (.reused obj)).put c (.returned (.got obj))
    | [] => m.put c (.reading deadline)
  | .reading deadline => m.put c (.raising m.pool.maxInstances deadline)
  | .raising cap deadline =>
    if cap = 0 ∨ m.pool.instances < cap then
      { m with pool := { m.pool with instances := m.pool.instances + 1 } }.put c .creating
    else m.put c (.locking deadline)
  | .locking deadline => m.lock c (.counting deadline)
  | .counting deadline => { m with waiters := m.waiters + 1 }.put c (.retaking deadline)
  | .retaking deadline =>
    match m.pool.idle with
    | obj :: rest => (m.take rest (.reused obj)).put c (.uncounting (some (.got obj)) deadline)
    | [] => m.put c (.rereading deadline)
  | .rereading deadline =>
    m.put c (if m.pool.maxInstances = 0 then .uncounting none deadline
      else .comparing m.pool.maxInstances deadline)
  | .comparing cap deadline =>
    m.put c (if m.pool.instances < cap then .uncounting none deadline else .resigning deadline)
  | .resigning deadline =>
    match deadline with
    | none => m.unlock c (.asleep none)
    | some t =>
      if t ≤ m.clock then m.put c (.uncounting (some (.exhausted m.pool.timeoutMillis)) deadline)
      else m.unlock c (.asleep deadline)
  | .relocking deadline => m.lock c (.retaking deadline)
  | .uncounting r deadline => { m with waiters := m.waiters - 1 }.put c (.unlocking r deadline)
  | .unlocking r deadline => m.unlock c (r.elim (.taking deadline) .returned)
  | .freeing next =>
    if m.pool.instances = 0 then (m.note .underflow).put c next.place
    else
      { m with pool := { m.pool with instances := m.pool.instances - 1 } }.put c
        (.weighing m.pool.instances next)
  | .weighing previous next => m.put c (if previous = m.pool.maxInstances then .alerting next else next.place)
  | .alerting next => m.put c (if m.waiters = 0 then next.place else .calling next)
  | .calling next => m.lock c (.waking next)
  | .waking next => m.rouseAll.put c (.leaving next)
  | .leaving next => m.unlock c next.place
  | .pushing obj =>
    if m.pool.idle.length < m.pool.poolSize then
      ({ m with pool := { m.pool with idle := m.pool.idle ++ [obj] } }.note (.kept obj)).put c .kept
    else m.put c (.removing obj .release)
  | .kept => m.put c (if m.pool.maxInstances = 0 then .returned .done else .keptUnder m.pool.maxInstances)
  | .keptUnder cap => m.put c (if cap ≤ m.pool.instances then .alerting (.done .done) else .returned .done)
  | .removing obj errand =>
    ({ m with pool := { m.pool with removeCount := m.pool.removeCount + 1 } }.note (.destroyed obj)).put c
      (.destroying obj errand)
  | .clearing =>
    match m.pool.idle with
    | [] => m.put c (.returned .done)
    | obj :: rest => (m.take rest (.cleared obj)).put c (.removing obj .stop)
  | .capping n =>
    { m with pool := { m.pool with maxInstances := n } }.put c
      (if m.pool.maxInstances = n then .returned .done else .alerting (.done .done))
  | .asleep _ | .creating | .destroying _ _ | .returned _ => m

/-- The next access of a caller. -/
def access (c : CallerId) : Shared α :=
  match m.callers c with
  | some p => m.go c p
  | none => m

/-! ## Moves -/

/-- When a caller that starts to wait now gives up. -/
def deadline : Option Nat :=
  if 0 < m.pool.timeoutMillis then some (m.clock + m.pool.timeoutMillis) else none

/-- Where a call starts. -/
def start : Call α → Place α
  | .get => .taking m.deadline
  | .release obj => .pushing obj
  | .discard obj => .freeing (.destroy obj)
  | .stop => .clearing
  | .setMaxSize n => .capping n

/-- The factory has been at work for a caller. A slot for which there is no object, or no longer, is to be given
back, and a panic ends the call. -/
def worked (c : CallerId) (w : Machine.Work α) : Shared α :=
  match m.callers c, w with
  | some .creating, .made obj =>
    ({ m with pool := { m.pool with createCount := m.pool.createCount + 1 } }.note (.created obj)).put c
      (.returned (.got obj))
  | some .creating, .failed f => (m.note (.createFailed f)).put c (.freeing (.done (.failed f)))
  | some .creating, .panicked payload => m.put c (.freeing (.done (.panicked payload)))
  | some (.destroying _ .release), .destroyed => m.put c (.freeing (.done .done))
  | some (.destroying _ .discard), .destroyed => m.put c (.returned .done)
  | some (.destroying _ .stop), .destroyed => m.put c (.freeing .clear)
  | some (.destroying _ .discard), .panicked payload => m.put c (.returned (.panicked payload))
  | some (.destroying _ _), .panicked payload => m.put c (.freeing (.done (.panicked payload)))
  | _, _ => m

/-- What can happen. -/
inductive Move (α : Type)
  | call (c : CallerId) (k : Call α)
  | access (c : CallerId)
  /-- A caller that waits wakes up by itself, or because its time is over. -/
  | rouse (c : CallerId)
  | worked (c : CallerId) (w : Machine.Work α)
  | tick (millis : Nat)
  deriving DecidableEq

/-- Whether a caller can start a call. -/
def isFree (c : CallerId) : Bool :=
  match m.callers c with
  | none | some (.returned _) => true
  | _ => false

/-- A move. One that is out of place changes nothing. -/
def step : Move α → Shared α
  | .call c k => if m.isFree c then m.put c (m.start k) else m
  | .access c => m.access c
  | .rouse c =>
    match m.callers c with
    | some (.asleep deadline) => m.put c (.relocking deadline)
    | _ => m
  | .worked c w => m.worked c w
  | .tick millis => { m with clock := m.clock + millis }

/-- Moves one after another. -/
def run (moves : List (Move α)) : Shared α := moves.foldl step m

end Shared

end Sluice.Pool
