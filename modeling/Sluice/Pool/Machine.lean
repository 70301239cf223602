import Sluice.Pool.Basic
import Sluice.Table

/-!
# A pool and its callers, one turn at a time

Several callers use a pool. Each is in a phase: it may wait, or the factory may be at work for it. The moves say
which caller goes on, what the factory did, and how the clock goes. A caller that goes on does so without a break
until it tries again, waits, returns, or leaves the rest to the factory: the callers take turns. Of what accesses
a turn is made, and what happens when others come in between, is in `Sluice.Pool.Accesses`.

* `Machine`, `Phase`: the state. `Occurrence`: its journal.
* `Call`, `Move`, `Machine.step`, `Machine.run`: what can happen.
* `Machine.wakeAll`: callers that wait are woken when the pool leaves its ceiling, and look again.
-/

namespace Sluice.Pool

/-- The identity of a caller. -/
structure CallerId where
  index : Nat
  deriving DecidableEq

/-- Why an object is destroyed. -/
inductive Errand
  /-- It came back and there was no place for it. Its slot is given back afterwards. -/
  | release
  /-- It must not be used again. Its slot has been given back. -/
  | discard
  /-- All idle objects go. Its slot is given back afterwards. -/
  | stop
  deriving DecidableEq

/-- Where a caller is. -/
inductive Phase (α : Type)
  /-- It is about to take an idle object or a slot. -/
  | trying (deadline : Option Nat)
  /-- It found neither, counts as one who waits, and is about to look again. -/
  | looking (deadline : Option Nat)
  /-- It waits until it is woken. -/
  | blocked (deadline : Option Nat)
  /-- It has a slot and the factory makes an object. -/
  | creating
  /-- The factory destroys an object. -/
  | destroying (obj : α) (errand : Errand)
  | returned (r : Result α)
  deriving DecidableEq

/-- Something that has happened. -/
inductive Occurrence (α : Type)
  | created (obj : α)
  /-- An idle object was taken by a caller. -/
  | reused (obj : α)
  /-- An object became idle. -/
  | kept (obj : α)
  /-- An idle object was taken to be destroyed. -/
  | cleared (obj : α)
  /-- An object was passed to the factory to be destroyed. -/
  | destroyed (obj : α)
  | createFailed (f : Failure)
  /-- A slot was given back that nobody had. -/
  | underflow
  deriving DecidableEq

/-- The record of an occurrence that goes to the log. -/
def Occurrence.record? {α : Type} : Occurrence α → Option Record
  | createFailed f =>
    some ⟨.warn, "Pool factory failed to create instance", [("error", .text f.text)]⟩
  | underflow => some ⟨.error, "Pool instance count underflow - object not from this pool?", []⟩
  | _ => none

/-- What a caller can ask for. -/
inductive Call (α : Type)
  | get
  | release (obj : α)
  | discard (obj : α)
  | stop
  | setMaxSize (n : Nat)
  deriving DecidableEq

/-- A pool with its callers, the clock in milliseconds, and what has happened, newest first. -/
structure Machine (α : Type) where
  pool : Pool α
  callers : Table CallerId (Phase α) := .empty
  clock : Nat := 0
  journal : List (Occurrence α) := []

namespace Machine

variable {α : Type} (m : Machine α)

def note (o : Occurrence α) : Machine α := { m with journal := o :: m.journal }

/-- Puts a caller into a phase. -/
def put (c : CallerId) (p : Phase α) : Machine α := { m with callers := m.callers.set c p }

/-- A caller that waits is woken. -/
def wake : Phase α → Phase α
  | .blocked deadline => .looking deadline
  | p => p

/-- Wakes all callers that wait. -/
def wakeAll : Machine α := { m with callers := fun c => (m.callers c).map wake }

/-- Gives a slot back, and wakes those who wait if the pool leaves its ceiling. -/
def freeSlot : Machine α :=
  let n := m.pool.instances
  if n = 0 then m.note .underflow
  else
    let freed := { m with pool := { m.pool with instances := n - 1 } }
    if n = m.pool.maxInstances then freed.wakeAll else freed

/-- Takes a slot, and has the factory make an object. -/
def takeSlot (c : CallerId) : Machine α :=
  { m with pool := { m.pool with instances := m.pool.instances + 1 } }.put c .creating

/-- Hands an idle object to a caller. -/
def reuse (c : CallerId) (obj : α) (rest : List α) : Machine α :=
  ({ m with pool := { m.pool with idle := rest } }.note (.reused obj)).put c (.returned (.got obj))

/-- Passes an object to the factory to be destroyed. -/
def destroy (c : CallerId) (obj : α) (errand : Errand) : Machine α :=
  ({ m with pool := { m.pool with removeCount := m.pool.removeCount + 1 } }.note (.destroyed obj)).put c
    (.destroying obj errand)

/-- Destroys the next idle object, if there is one. -/
def clear (c : CallerId) : Machine α :=
  match m.pool.idle with
  | [] => m.put c (.returned .done)
  | obj :: rest =>
    ({ m with pool := { m.pool with idle := rest } }.note (.cleared obj)).destroy c obj .stop

/-! ## Calls -/

/-- When a caller that starts to wait now gives up. -/
def deadline : Option Nat :=
  if 0 < m.pool.timeoutMillis then some (m.clock + m.pool.timeoutMillis) else none

/-- Gives an object back. It is kept if there is place among the idle ones, and those who wait are
woken if the pool is at its ceiling. -/
def release (c : CallerId) (obj : α) : Machine α :=
  if m.pool.idle.length < m.pool.poolSize then
    let kept := { m with pool := { m.pool with idle := m.pool.idle ++ [obj] } }.note (.kept obj)
    let kept :=
      if 0 < m.pool.maxInstances ∧ m.pool.maxInstances ≤ m.pool.instances then kept.wakeAll else kept
    kept.put c (.returned .done)
  else m.destroy c obj .release

/-- Changes the cap, and wakes those who wait if it is another. -/
def setMaxSize (c : CallerId) (n : Nat) : Machine α :=
  let changed := { m with pool := { m.pool with maxInstances := n } }
  let changed := if m.pool.maxInstances = n then changed else changed.wakeAll
  changed.put c (.returned .done)

/-- Starts a call. -/
def call (c : CallerId) : Call α → Machine α
  | .get => m.put c (.trying m.deadline)
  | .release obj => m.release c obj
  | .discard obj => m.freeSlot.destroy c obj .discard
  | .stop => m.clear c
  | .setMaxSize n => m.setMaxSize c n

/-! ## How a caller goes on -/

/-- Takes an idle object, or else a slot, or else starts to wait. -/
def attempt (c : CallerId) (deadline : Option Nat) : Machine α :=
  match m.pool.idle with
  | obj :: rest => m.reuse c obj rest
  | [] => if m.pool.hasRoom then m.takeSlot c else m.put c (.looking deadline)

/-- Looks again before it waits: an idle object is taken, and for a slot everything starts anew. -/
def look (c : CallerId) (deadline : Option Nat) : Machine α :=
  match m.pool.idle with
  | obj :: rest => m.reuse c obj rest
  | [] =>
    if m.pool.hasRoom then m.put c (.trying deadline)
    else
      match deadline with
      | none => m.put c (.blocked none)
      | some t =>
        if t ≤ m.clock then m.put c (.returned (.exhausted m.pool.timeoutMillis))
        else m.put c (.blocked (some t))

/-- A caller goes on. One that waits may be roused at any time, and looks again. -/
def resume (c : CallerId) : Machine α :=
  match m.callers c with
  | some (.trying deadline) => m.attempt c deadline
  | some (.looking deadline) => m.look c deadline
  | some (.blocked deadline) => m.put c (.looking deadline)
  | _ => m

/-- What the factory did. -/
inductive Work (α : Type)
  | made (obj : α)
  | failed (f : Failure)
  | destroyed
  | panicked (payload : Payload)
  deriving DecidableEq

/-- The factory has been at work for a caller. A slot for which there is no object, or no longer, is
given back, and a panic ends the call. -/
def worked (c : CallerId) (w : Work α) : Machine α :=
  match m.callers c, w with
  | some .creating, .made obj =>
    ({ m with pool := { m.pool with createCount := m.pool.createCount + 1 } }.note (.created obj)).put c
      (.returned (.got obj))
  | some .creating, .failed f => ((m.note (.createFailed f)).freeSlot).put c (.returned (.failed f))
  | some .creating, .panicked payload => m.freeSlot.put c (.returned (.panicked payload))
  | some (.destroying _ .release), .destroyed => m.freeSlot.put c (.returned .done)
  | some (.destroying _ .discard), .destroyed => m.put c (.returned .done)
  | some (.destroying _ .stop), .destroyed => m.freeSlot.clear c
  | some (.destroying _ .discard), .panicked payload => m.put c (.returned (.panicked payload))
  | some (.destroying _ _), .panicked payload => m.freeSlot.put c (.returned (.panicked payload))
  | _, _ => m

/-- What can happen. -/
inductive Move (α : Type)
  | call (c : CallerId) (k : Call α)
  | resume (c : CallerId)
  | worked (c : CallerId) (w : Work α)
  | tick (millis : Nat)
  deriving DecidableEq

/-- Whether a caller can start a call. -/
def isFree (c : CallerId) : Bool :=
  match m.callers c with
  | none | some (.returned _) => true
  | _ => false

/-- A move. One that is out of place changes nothing. -/
def step : Move α → Machine α
  | .call c k => if m.isFree c then m.call c k else m
  | .resume c => m.resume c
  | .worked c w => m.worked c w
  | .tick millis => { m with clock := m.clock + millis }

/-- Moves one after another. -/
def run (moves : List (Move α)) : Machine α := moves.foldl step m

end Machine

end Sluice.Pool
