import Sluice.Json.Record
import Sluice.State

/-!
# States as JSON

A state is its name. A status and a snapshot are records; a snapshot leaves out a time that it does
not have and an empty list of pending gates.
-/

namespace Sluice

open Json

/-- The text of a coordinator's state. -/
def SuspendState.encode (s : SuspendState) : List Char := textOf s.name

/-- Reads a coordinator's state. -/
def SuspendState.read : Read SuspendState := readCase ofName?

/-- The text of a gate's state. -/
def GateState.encode (s : GateState) : List Char := textOf s.name

/-- Reads a gate's state. -/
def GateState.read : Read GateState := readCase ofName?

/-- The text of a health. -/
def Health.encode (s : Health) : List Char := textOf s.name

/-- Reads a health. -/
def Health.read : Read Health := readCase ofName?

namespace GateStatus

/-- The text of a status. -/
def encode (g : GateStatus) : List Char :=
  objectOf [("name", textOf g.name), ("state", g.state.encode),
    ("outstanding", integerText g.outstanding)]

/-- A status of which some fields have been read. -/
structure Draft where
  name : Option String := none
  state : Option GateState := none
  outstanding : Option Int := none

/-- A draft with all its fields. -/
def Draft.complete (d : Draft) : Option GateStatus := do
  pure ⟨← d.name, ← d.state, ← d.outstanding⟩

/-- The record of a status. -/
def schema : Schema Draft GateStatus where
  blank := {}
  fields := [
    ⟨"name", fun d => d.name.isSome, fun d s => do
      let (x, rest) ← readString s
      pure ({ d with name := some x }, rest)⟩,
    ⟨"state", fun d => d.state.isSome, fun d s => do
      let (x, rest) ← GateState.read s
      pure ({ d with state := some x }, rest)⟩,
    ⟨"outstanding", fun d => d.outstanding.isSome, fun d s => do
      let (x, rest) ← readInt s
      pure ({ d with outstanding := some x }, rest)⟩]
  ofObject := Draft.complete
  ofList := Draft.complete

/-- Reads a status. -/
def read : Read GateStatus := schema.readRecord

end GateStatus

namespace Snapshot

/-- The text of a snapshot. -/
def encode (s : Snapshot) : List Char :=
  objectOf (
    [("state", s.state.encode), ("generation", naturalText s.generation)] ++
    (s.suspendedAt.toList.map fun t => ("suspended_at", textOf t)) ++
    [("gates", listOf (s.gates.map GateStatus.encode))] ++
    if s.pending.isEmpty then [] else [("pending", listOf (s.pending.map textOf))])

/-- A snapshot of which some fields have been read. -/
structure Draft where
  state : Option SuspendState := none
  generation : Option Nat := none
  suspendedAt : Option (Option String) := none
  gates : Option (List GateStatus) := none
  pending : Option (List String) := none

/-- A draft with all its fields, but that the pending gates may be left out. -/
def Draft.complete (d : Draft) : Option Snapshot := do
  pure ⟨← d.state, ← d.generation, ← d.suspendedAt, ← d.gates, d.pending.getD []⟩

/-- The record of a snapshot. As an object it may leave the time out, as a list it may not. -/
def schema : Schema Draft Snapshot where
  blank := {}
  fields := [
    ⟨"state", fun d => d.state.isSome, fun d s => do
      let (x, rest) ← SuspendState.read s
      pure ({ d with state := some x }, rest)⟩,
    ⟨"generation", fun d => d.generation.isSome, fun d s => do
      let (x, rest) ← readNat s
      pure ({ d with generation := some x }, rest)⟩,
    ⟨"suspended_at", fun d => d.suspendedAt.isSome, fun d s => do
      let (x, rest) ← readOption readString s
      pure ({ d with suspendedAt := some x }, rest)⟩,
    ⟨"gates", fun d => d.gates.isSome, fun d s => do
      let (x, rest) ← readList GateStatus.read s
      pure ({ d with gates := some x }, rest)⟩,
    ⟨"pending", fun d => d.pending.isSome, fun d s => do
      let (x, rest) ← readList readString s
      pure ({ d with pending := some x }, rest)⟩]
  ofObject := fun d => { d with suspendedAt := some (d.suspendedAt.getD none) }.complete
  ofList := Draft.complete

/-- Reads a snapshot. -/
def read : Read Snapshot := schema.readRecord

end Snapshot

end Sluice
