import Sluice.Alert
import Sluice.Config
import Sluice.Json.Record

/-!
# Pools

A pool keeps a bounded number of objects. What is here are its counters and its queue; `Machine` has
the callers.

* `Pool`: the counters, and the objects that are idle, oldest first.
* `Pool.hasRoom`: whether one more object may live. `Pool.stats`: what is shown of a pool.
* `Failure`: why no object could be made.
* `Result`: what a caller gets.
-/

namespace Sluice

/-- A pool. -/
structure Pool (α : Type) where
  /-- The cap on live objects, 0 for none. -/
  maxInstances : Nat
  /-- The cap on idle objects. -/
  poolSize : Nat
  /-- How long a caller waits, in milliseconds, 0 for ever. -/
  timeoutMillis : Nat
  /-- The live objects, and those that are being made or destroyed. -/
  instances : Nat := 0
  idle : List α := []
  createCount : Nat := 0
  removeCount : Nat := 0
  deriving DecidableEq

namespace Pool

/-- The counters as they are shown. -/
structure Stats where
  createCount : Nat
  removeCount : Nat
  instances : Nat
  pooled : Nat
  available : Nat
  deriving DecidableEq

open Json in
/-- The text of the counters. -/
def Stats.encode (s : Stats) : List Char :=
  objectOf [("create_count", naturalText s.createCount), ("remove_count", naturalText s.removeCount),
    ("instances", naturalText s.instances), ("pooled", naturalText s.pooled),
    ("available", naturalText s.available)]

variable {α : Type}

/-- A pool of these settings, without objects. -/
def ofConfig (c : PoolConfig) : Pool α where
  maxInstances := c.maxInstances
  poolSize := c.poolSize
  timeoutMillis := c.timeoutMillis

/-- How many objects may still be made, where there is a cap, and else 0. -/
def available (p : Pool α) : Nat := p.maxInstances - p.instances

/-- The objects that have been made and not destroyed. -/
def size (p : Pool α) : Nat := p.createCount - p.removeCount

/-- Whether one more object may live. -/
def hasRoom (p : Pool α) : Bool := p.maxInstances = 0 || p.instances < p.maxInstances

/-- What is shown of a pool. -/
def stats (p : Pool α) : Stats :=
  ⟨p.createCount, p.removeCount, p.instances, p.idle.length, p.available⟩

/-- Why no object could be made: what failed, and below it what made that fail. -/
structure Failure where
  text : String
  causes : List String := []
  deriving DecidableEq

/-- The failure seen from further outside. -/
def Failure.within (f : Failure) (context : String) : Failure := ⟨context, f.text :: f.causes⟩

/-- What a caller gets. -/
inductive Result (α : Type)
  | got (obj : α)
  /-- The time was over. -/
  | exhausted (timeoutMillis : Nat)
  | failed (f : Failure)
  | done
  /-- The factory panicked. -/
  | panicked (payload : Payload)
  deriving DecidableEq

/-- The text of a result that is an error. -/
def Result.message : Result α → String
  | exhausted timeoutMillis =>
    "Pool exhausted: no instance became available within " ++ toString timeoutMillis ++ "ms"
  | failed _ => "Failed to create pooled instance"
  | _ => ""

end Pool

end Sluice
