import Sluice.Json.Record
import Sluice.Config

/-!
# Pool settings as JSON

Settings are a record whose fields may all be left out; a field that is left out is zero.
-/

namespace Sluice.PoolConfig

open Json

/-- The text of the settings. -/
def encode (c : PoolConfig) : List Char :=
  objectOf [("max_instances", naturalText c.maxInstances), ("pool_size", naturalText c.poolSize),
    ("timeout_millis", naturalText c.timeoutMillis)]

/-- Settings of which some fields have been read. -/
structure Draft where
  maxInstances : Option Nat := none
  poolSize : Option Nat := none
  timeoutMillis : Option Nat := none

/-- A draft with zero for what it lacks. -/
def Draft.complete (d : Draft) : PoolConfig :=
  ⟨d.maxInstances.getD 0, d.poolSize.getD 0, d.timeoutMillis.getD 0⟩

/-- The record of the settings. -/
def schema : Schema Draft PoolConfig where
  blank := {}
  fields := [
    ⟨"max_instances", fun d => d.maxInstances.isSome, fun d s => do
      let (x, rest) ← readNat s
      pure ({ d with maxInstances := some x }, rest)⟩,
    ⟨"pool_size", fun d => d.poolSize.isSome, fun d s => do
      let (x, rest) ← readNat s
      pure ({ d with poolSize := some x }, rest)⟩,
    ⟨"timeout_millis", fun d => d.timeoutMillis.isSome, fun d s => do
      let (x, rest) ← readNat s
      pure ({ d with timeoutMillis := some x }, rest)⟩]
  ofObject := fun d => some d.complete
  ofList := fun d => some d.complete

/-- Reads the settings. -/
def read : Read PoolConfig := schema.readRecord

end Sluice.PoolConfig
