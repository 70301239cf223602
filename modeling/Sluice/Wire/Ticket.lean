import Sluice.Json.Record
import Sluice.Permit

/-!
# Identities and tickets as JSON

An identity is a string in any spelling of a `Uuid`, and is written in the usual one. A ticket is a
record of two identities.
-/

namespace Sluice

open Json

/-- Reads an identifier. -/
def Uuid.read : Read Uuid := readSpelling fun s => Uuid.ofChars? s.toList

/-- The text of an identifier. -/
def Uuid.encode (u : Uuid) : List Char := textOf u.text

/-- Reads the identity of a permit. -/
def PermitId.read : Read PermitId := fun s => do
  let (u, rest) ← Uuid.read s
  pure (⟨u⟩, rest)

/-- Reads the identity of a gate. -/
def GateId.read : Read GateId := fun s => do
  let (u, rest) ← Uuid.read s
  pure (⟨u⟩, rest)

namespace Ticket

/-- The text of a ticket. -/
def encode (t : Ticket) : List Char :=
  objectOf [("permit", t.permit.uuid.encode), ("gate", t.gate.uuid.encode)]

/-- A ticket of which some fields have been read. -/
structure Draft where
  permit : Option PermitId := none
  gate : Option GateId := none

/-- A draft with both its fields. -/
def Draft.complete (d : Draft) : Option Ticket := do
  pure ⟨← d.permit, ← d.gate⟩

/-- The record of a ticket. -/
def schema : Schema Draft Ticket where
  blank := {}
  fields := [
    ⟨"permit", fun d => d.permit.isSome, fun d s => do
      let (x, rest) ← PermitId.read s
      pure ({ d with permit := some x }, rest)⟩,
    ⟨"gate", fun d => d.gate.isSome, fun d s => do
      let (x, rest) ← GateId.read s
      pure ({ d with gate := some x }, rest)⟩]
  ofObject := Draft.complete
  ofList := Draft.complete

/-- Reads a ticket. -/
def read : Read Ticket := schema.readRecord

/-- The ticket that a whole text spells. -/
def decode (text : String) : Except Fault Ticket := whole read text.toList

end Ticket

end Sluice
