import Sluice.Proofs.Records
import Sluice.Wire.Config
import Sluice.Wire.State

/-!
# Reading what has been written

Every value that is sent is read as itself. So a text that is accepted, in whatever spelling, settles at once: what is
written for its value is read as this value again.

* `RoundTrips`: a reader undoes a writer. `RoundTrips.of`: it does if every value is read back wherever it stands, and
  if what is read is in range.
* `GateStatus.Fits`, `Snapshot.Fits`, `PoolConfig.Fits`: values whose numbers have 64 bits.
* `spells_status`, `spells_snapshot`, `spells_poolConfig`, `spells_ticket`: **the records are read back**.
* `roundTrip_exact`: the same of all nine types.
-/

namespace Sluice

open Json

/-- A reader undoes a writer: a value that fits is read back, and every text that is accepted is of such a value. So
what is written for that is accepted as the same value, for which the same text is written again. -/
structure RoundTrips {α : Type} (read : Read α) (encode : α → List Char) (Fits : α → Prop) : Prop where
  undoes : ∀ a, Fits a → whole read (encode a) = .ok a
  settles : ∀ text a, whole read text = .ok a →
    Fits a ∧ whole read (encode a) = .ok a ∧ (whole read (encode a)).map encode = .ok (encode a)

theorem read_of_whole {α : Type} {read : Read α} {text : List Char} {a : α} (h : whole read text = .ok a) :
    ∃ rest, read text = .ok (a, rest) := by
  obtain ⟨⟨b, rest⟩, hr, h⟩ := bind_eq_ok.1 h
  simp only at h
  split at h
  · cases h
    exact ⟨rest, hr⟩
  · cases h

theorem RoundTrips.of {α : Type} {read : Read α} {encode : α → List Char} {Fits : α → Prop}
    (hs : ∀ a, Fits a → Spells read (encode a) a) (hy : Yields read Fits) : RoundTrips read encode Fits := by
  refine ⟨fun a ha => whole_of_spells (hs a ha), fun text a h => ?_⟩
  obtain ⟨rest, hr⟩ := read_of_whole h
  have ha := hy text a rest hr
  have hback : whole read (encode a) = .ok a := whole_of_spells (hs a ha)
  exact ⟨ha, hback, by rw [hback]; rfl⟩

/-! ## States -/

theorem spells_suspendState (s : SuspendState) : Spells SuspendState.read s.encode s :=
  spells_case (by cases s <;> rfl)

theorem spells_gateState (s : GateState) : Spells GateState.read s.encode s :=
  spells_case (by cases s <;> rfl)

theorem spells_health (h : Health) : Spells Health.read h.encode h :=
  spells_case (by cases h <;> rfl)

/-! ## Records -/

/-- The number of permits that are out has 64 bits, of which one is the sign. -/
def GateStatus.Fits (g : GateStatus) : Prop := -(signedBound : Int) ≤ g.outstanding ∧ g.outstanding < signedBound

/-- All numbers in a snapshot have 64 bits. -/
structure Snapshot.Fits (s : Snapshot) : Prop where
  generation : s.generation < wordBound
  gates : ∀ g ∈ s.gates, g.Fits

/-- All numbers in the settings have 64 bits. -/
structure PoolConfig.Fits (c : PoolConfig) : Prop where
  maxInstances : c.maxInstances < wordBound
  poolSize : c.poolSize < wordBound
  timeoutMillis : c.timeoutMillis < wordBound

theorem GateStatus.puts_name :
    Puts schema.fields "name" readString (·.name.isSome) fun d x => { d with name := some x } := rfl

theorem GateStatus.puts_state :
    Puts schema.fields "state" GateState.read (·.state.isSome) fun d x => { d with state := some x } := rfl

theorem GateStatus.puts_outstanding :
    Puts schema.fields "outstanding" readInt (·.outstanding.isSome) fun d x => { d with outstanding := some x } := rfl

theorem PoolConfig.puts_maxInstances :
    Puts schema.fields "max_instances" readNat (·.maxInstances.isSome) fun d x => { d with maxInstances := some x } :=
  rfl

theorem PoolConfig.puts_poolSize :
    Puts schema.fields "pool_size" readNat (·.poolSize.isSome) fun d x => { d with poolSize := some x } := rfl

theorem PoolConfig.puts_timeoutMillis :
    Puts schema.fields "timeout_millis" readNat (·.timeoutMillis.isSome)
      fun d x => { d with timeoutMillis := some x } := rfl

theorem Ticket.puts_permit :
    Puts schema.fields "permit" PermitId.read (·.permit.isSome) fun d x => { d with permit := some x } := rfl

theorem Ticket.puts_gate :
    Puts schema.fields "gate" GateId.read (·.gate.isSome) fun d x => { d with gate := some x } := rfl

theorem spells_status {g : GateStatus} (h : g.Fits) : Spells GateStatus.read g.encode g :=
  spells_object (.put GateStatus.puts_name rfl (spells_text g.name)
    (.put GateStatus.puts_state rfl (spells_gateState g.state)
      (.put GateStatus.puts_outstanding rfl (spells_integer h.1 h.2) .nil))) rfl

theorem spells_poolConfig {c : PoolConfig} (h : c.Fits) : Spells PoolConfig.read c.encode c :=
  spells_object (.put PoolConfig.puts_maxInstances rfl (spells_natural h.maxInstances)
    (.put PoolConfig.puts_poolSize rfl (spells_natural h.poolSize)
      (.put PoolConfig.puts_timeoutMillis rfl (spells_natural h.timeoutMillis) .nil))) rfl

theorem spells_ticket (t : Ticket) : Spells Ticket.read t.encode t :=
  spells_object (.put Ticket.puts_permit rfl (spells_permitId t.permit)
    (.put Ticket.puts_gate rfl (spells_gateId t.gate) .nil)) rfl

theorem begins_text (t : String) : Begins (textOf t) := ⟨_, _, rfl, by decide, by decide⟩

theorem begins_object (ms : List (String × List Char)) : Begins (objectOf ms) := ⟨_, _, rfl, by decide, by decide⟩

theorem spells_option {t : String} : Spells (readOption readString) (textOf t) (some t) := by
  intro rest hr
  have hread := spells_text t rest hr
  rw [textOf_append] at hread ⊢
  unfold readOption
  rw [skipSpace_cons (by decide)]
  split
  · rename_i he
    exact absurd (List.cons.inj he).1 (by decide)
  · simp only [hread, bind, Except.bind]
    rfl

theorem Snapshot.puts_state :
    Puts schema.fields "state" SuspendState.read (·.state.isSome) fun d x => { d with state := some x } := rfl

theorem Snapshot.puts_generation :
    Puts schema.fields "generation" readNat (·.generation.isSome) fun d x => { d with generation := some x } := rfl

theorem Snapshot.puts_suspendedAt :
    Puts schema.fields "suspended_at" (readOption readString) (·.suspendedAt.isSome)
      fun d x => { d with suspendedAt := some x } := rfl

theorem Snapshot.puts_gates :
    Puts schema.fields "gates" (readList GateStatus.read) (·.gates.isSome) fun d x => { d with gates := some x } := rfl

theorem Snapshot.puts_pending :
    Puts schema.fields "pending" (readList readString) (·.pending.isSome) fun d x => { d with pending := some x } := rfl

/-- **A snapshot is read back**, and what it leaves out with it. -/
theorem spells_snapshot {s : Snapshot} (h : s.Fits) : Spells Snapshot.read s.encode s := by
  have hgates : Spells (readList GateStatus.read) (listOf (s.gates.map GateStatus.encode)) s.gates :=
    spells_list fun g hg => ⟨spells_status (h.gates g hg), begins_object _⟩
  have hpending : Spells (readList readString) (listOf (s.pending.map textOf)) s.pending :=
    spells_list fun t _ => ⟨spells_text t, begins_text t⟩
  let first : Snapshot.Draft := { state := some s.state, generation := some s.generation }
  let timed : Snapshot.Draft := { first with suspendedAt := s.suspendedAt.map some }
  let gated : Snapshot.Draft := { timed with gates := some s.gates }
  have hfirst : Fills Snapshot.schema.fields {}
      [("state", s.state.encode), ("generation", naturalText s.generation)] first :=
    .put Snapshot.puts_state rfl (spells_suspendState s.state)
      (.put Snapshot.puts_generation rfl (spells_natural h.generation) .nil)
  have htimed : Fills Snapshot.schema.fields first
      (s.suspendedAt.toList.map fun t => ("suspended_at", textOf t)) timed := by
    simp only [timed]
    cases s.suspendedAt with
    | none => exact .nil
    | some t => exact .put Snapshot.puts_suspendedAt rfl spells_option .nil
  have hgated : Fills Snapshot.schema.fields timed [("gates", listOf (s.gates.map GateStatus.encode))] gated :=
    .put Snapshot.puts_gates rfl hgates .nil
  have hbefore := (hfirst.append htimed).append hgated
  have htime : (s.suspendedAt.map some).getD none = s.suspendedAt := by cases s.suspendedAt <;> rfl
  unfold Snapshot.encode
  cases hempty : s.pending.isEmpty with
  | true =>
    -- nothing is pending, and the draft does not say so
    have hnil : s.pending = [] := List.isEmpty_iff.1 hempty
    refine spells_object (hbefore.append .nil) ?_
    show some (Snapshot.mk s.state s.generation ((s.suspendedAt.map some).getD none) s.gates []) = some s
    rw [htime, ← hnil]
  | false =>
    refine spells_object (hbefore.append (.put Snapshot.puts_pending rfl hpending .nil)) ?_
    show some (Snapshot.mk s.state s.generation ((s.suspendedAt.map some).getD none) s.gates s.pending) = some s
    rw [htime]

/-! ## What is in range -/

theorem yields_any {α : Type} {read : Read α} : Yields read fun _ => True := fun _ _ _ _ => trivial

theorem yields_status : Yields GateStatus.read GateStatus.Fits := by
  let InRange (d : GateStatus.Draft) : Prop :=
    ∀ i ∈ d.outstanding, -(signedBound : Int) ≤ i ∧ i < signedBound
  have hcomplete (d : GateStatus.Draft) (g : GateStatus) (hd : InRange d) (h : d.complete = some g) : g.Fits := by
    simp only [GateStatus.Draft.complete, bind, Option.bind_eq_some_iff, pure] at h
    obtain ⟨_, -, _, -, i, hi, h⟩ := h
    cases h
    exact hd i hi
  refine yields_record (I := InRange) nofun (List.forall_mem_cons.2 ⟨fun d hd => ?_, List.forall_mem_cons.2
    ⟨fun d hd => ?_, List.forall_mem_cons.2 ⟨fun d _ => ?_, nofun⟩⟩⟩) hcomplete hcomplete
  · exact yields_into (Q := InRange) (p := fun x => { d with name := some x }) yields_any fun _ _ => hd
  · exact yields_into (Q := InRange) (p := fun x => { d with state := some x }) yields_any fun _ _ => hd
  · refine yields_into (Q := InRange) (p := fun x => { d with outstanding := some x }) yields_int fun i hi j hj => ?_
    obtain rfl := Option.some.inj hj
    exact hi

theorem yields_poolConfig : Yields PoolConfig.read PoolConfig.Fits := by
  let InRange (d : PoolConfig.Draft) : Prop :=
    (∀ n ∈ d.maxInstances, n < wordBound) ∧ (∀ n ∈ d.poolSize, n < wordBound) ∧ ∀ n ∈ d.timeoutMillis, n < wordBound
  have hzero {x : Option Nat} (h : ∀ n ∈ x, n < wordBound) : x.getD 0 < wordBound := by
    cases x with
    | none => decide
    | some n => exact h n rfl
  have hsome {n : Nat} (h : n < wordBound) : ∀ k ∈ some n, k < wordBound := fun k hk => Option.some.inj hk ▸ h
  have hcomplete (d : PoolConfig.Draft) (c : PoolConfig) (hd : InRange d) (h : some d.complete = some c) : c.Fits := by
    obtain rfl := Option.some.inj h
    exact ⟨hzero hd.1, hzero hd.2.1, hzero hd.2.2⟩
  refine yields_record (I := InRange) ⟨nofun, nofun, nofun⟩ (List.forall_mem_cons.2 ⟨fun d hd => ?_,
    List.forall_mem_cons.2 ⟨fun d hd => ?_, List.forall_mem_cons.2 ⟨fun d hd => ?_, nofun⟩⟩⟩) hcomplete hcomplete
  · exact yields_into (Q := InRange) (p := fun x => { d with maxInstances := some x }) yields_nat
      fun n hn => ⟨hsome hn, hd.2⟩
  · exact yields_into (Q := InRange) (p := fun x => { d with poolSize := some x }) yields_nat
      fun n hn => ⟨hd.1, hsome hn, hd.2.2⟩
  · exact yields_into (Q := InRange) (p := fun x => { d with timeoutMillis := some x }) yields_nat
      fun n hn => ⟨hd.1, hd.2.1, hsome hn⟩

theorem yields_snapshot : Yields Snapshot.read Snapshot.Fits := by
  let InRange (d : Snapshot.Draft) : Prop :=
    (∀ n ∈ d.generation, n < wordBound) ∧ ∀ gates ∈ d.gates, ∀ g ∈ gates, g.Fits
  have hcomplete (d : Snapshot.Draft) (s : Snapshot) (hd : InRange d) (h : d.complete = some s) : s.Fits := by
    simp only [Snapshot.Draft.complete, bind, Option.bind_eq_some_iff, pure] at h
    obtain ⟨_, -, n, hn, _, -, gates, hgates, h⟩ := h
    cases h
    exact ⟨hd.1 n hn, hd.2 gates hgates⟩
  refine yields_record (I := InRange) ⟨nofun, nofun⟩ (List.forall_mem_cons.2 ⟨fun d hd => ?_,
    List.forall_mem_cons.2 ⟨fun d hd => ?_, List.forall_mem_cons.2 ⟨fun d hd => ?_,
    List.forall_mem_cons.2 ⟨fun d hd => ?_, List.forall_mem_cons.2 ⟨fun d hd => ?_, nofun⟩⟩⟩⟩⟩)
    (fun d s hd => hcomplete _ s hd) hcomplete
  · exact yields_into (Q := InRange) (p := fun x => { d with state := some x }) yields_any fun _ _ => hd
  · refine yields_into (Q := InRange) (p := fun x => { d with generation := some x }) yields_nat fun n hn => ⟨?_, hd.2⟩
    intro k hk
    exact Option.some.inj hk ▸ hn
  · exact yields_into (Q := InRange) (p := fun x => { d with suspendedAt := some x }) yields_any fun _ _ => hd
  · refine yields_into (Q := InRange) (p := fun x => { d with gates := some x }) (yields_list yields_status)
      fun gates hgates => ⟨hd.1, ?_⟩
    intro gs hgs
    exact Option.some.inj hgs ▸ hgates
  · exact yields_into (Q := InRange) (p := fun x => { d with pending := some x }) yields_any fun _ _ => hd

/-! ## Round trips -/

/-- **Reading undoes writing.** Every state, status, snapshot, identity and ticket, and all settings, are read back from
what is written for them, whatever characters are in their names and whatever their numbers of 64 bits are. Hence what
is written for the value of any text that is accepted, in whatever spelling, is read as the same value, and what is
written for this is the same text. -/
theorem roundTrip_exact :
    RoundTrips SuspendState.read SuspendState.encode (fun _ => True) ∧
      RoundTrips GateState.read GateState.encode (fun _ => True) ∧
      RoundTrips Health.read Health.encode (fun _ => True) ∧
      RoundTrips GateStatus.read GateStatus.encode GateStatus.Fits ∧
      RoundTrips Snapshot.read Snapshot.encode Snapshot.Fits ∧
      RoundTrips PoolConfig.read PoolConfig.encode PoolConfig.Fits ∧
      RoundTrips PermitId.read (·.uuid.encode) (fun _ => True) ∧
      RoundTrips GateId.read (·.uuid.encode) (fun _ => True) ∧
      RoundTrips Ticket.read Ticket.encode (fun _ => True) :=
  ⟨.of (fun s _ => spells_suspendState s) yields_any, .of (fun s _ => spells_gateState s) yields_any,
    .of (fun h _ => spells_health h) yields_any, .of (fun _ h => spells_status h) yields_status,
    .of (fun _ h => spells_snapshot h) yields_snapshot, .of (fun _ h => spells_poolConfig h) yields_poolConfig,
    .of (fun id _ => spells_permitId id) yields_any, .of (fun id _ => spells_gateId id) yields_any,
    .of (fun t _ => spells_ticket t) yields_any⟩

/-- A snapshot of extremes is read back. One that is spelled as a list, with spaces and an escape, settles. -/
theorem roundTrip_exact_extremes :
    let s : Snapshot := ⟨.suspending, wordBound - 1, some "\x00\t\x1f\"\\/é😀", [⟨"", .draining, signedBound - 1⟩,
      ⟨"\n", .drained, -signedBound⟩], ["\x7f"]⟩
    let text := "[ \"RUNNIN\\u0047\", 7 , null,[ ], [\"\\/\"] ] ".toList
    let t : Snapshot := ⟨.running, 7, none, [], ["/"]⟩
    s.Fits ∧ whole Snapshot.read s.encode = .ok s ∧
      whole Snapshot.read text = .ok t ∧ whole Snapshot.read t.encode = .ok t := by
  intro s text t
  have hfits : s.Fits := by
    refine ⟨by decide, ?_⟩
    simp only [s, List.forall_mem_cons, GateStatus.Fits]
    exact ⟨by decide, by decide, nofun⟩
  have htext : whole Snapshot.read text = .ok t := by decide +kernel
  obtain ⟨-, -, -, -, hsnapshot, -⟩ := roundTrip_exact
  exact ⟨hfits, hsnapshot.undoes s hfits, htext, (hsnapshot.settles text t htext).2.1⟩

end Sluice
