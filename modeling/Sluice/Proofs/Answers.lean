import Sluice.Http.Route
import Sluice.Proofs.RoundTrip

/-!
# What is told

The answers that are made up here carry JSON. What they tell is stated by their texts and by what these are read
as.

* `Json.TellsError`, `apply_refusal`: **what a closed gate answers**, as it leaves a router.
* `Reports`, `reports_shown`: **a snapshot is told** to whoever asks for it.
* `Probed`, `probed_health`: **a probe is told** whether there is work done.
-/

namespace Sluice

/-! ## Errors -/

/-- A text is JSON for an object that tells an error and nothing else. -/
def Json.TellsError (body message : String) : Prop :=
  ∃ text, body = String.ofList ("\x7b\"error\":".toList ++ text ++ "\x7d".toList) ∧
    whole readString text = .ok message

theorem Json.objectOf_error (text : List Char) :
    objectOf [("error", text)] = "\x7b\"error\":".toList ++ text ++ "\x7d".toList := by
  have hname : textOf "error" = "\"error\"".toList := by decide
  unfold objectOf
  simp only [List.map_cons, List.map_nil, commaJoin, hname]
  rfl

namespace Http

open Json

/-- **What a closed gate answers**, as it leaves the router. -/
theorem apply_refusal (e : Edit) (gate : String) :
    let r := e.apply (refusal gate)
    r.status = 503 ∧ r.retryAfter = some "5" ∧ r.contentType = some "application/json" ∧
      (e.headOnly = false →
        TellsError r.body ("Gate '" ++ gate ++ "' is draining and not admitting new work")) ∧
      (e.headOnly = true → r.body = "") := by
  have hread := whole_of_spells (spells_text (GateError.draining gate).message)
  have hbody : (refusal gate).body = String.ofList (objectOf [("error", textOf
      (GateError.draining gate).message)]) := rfl
  rw [objectOf_error] at hbody
  obtain ⟨headOnly, allow⟩ := e
  cases headOnly with
  | true => exact ⟨rfl, rfl, rfl, nofun, fun _ => rfl⟩
  | false => exact ⟨rfl, rfl, rfl, fun _ => ⟨_, hbody, hread⟩, nofun⟩

/-! ## Snapshots -/

/-- An answer reports a snapshot, but for the body if that is left out. The state is legible whatever the numbers
are, and all of it is read back where these have 64 bits. -/
structure Reports (s : Snapshot) (status : Nat) (bare : Bool) (r : Response) : Prop where
  head : r = { status, contentType := some "application/json", body := r.body }
  state : bare = false → ("\x7b\"state\":\"" ++ s.state.name ++ "\",").toList <+: r.body.toList
  read : bare = false → s.Fits → whole Snapshot.read r.body.toList = .ok s
  bare : bare = true → r.body = ""

theorem toList_json (status : Nat) (body : List Char) : (Response.json status body).body.toList = body :=
  String.toList_ofList

/-- **A snapshot that is shown is reported.** -/
theorem reports_shown (s : Snapshot) (status : Nat) (bare : Bool) :
    Reports s status bare ((shown status s).behead bare) := by
  cases bare with
  | true => exact ⟨rfl, nofun, nofun, fun _ => rfl⟩
  | false =>
    have hbody : ((shown status s).behead false).body.toList = s.encode := toList_json status s.encode
    refine ⟨rfl, fun _ => ?_, fun _ hs => ?_, nofun⟩
    · -- the state is the first member, and another one follows
      have hname : textOf "state" = "\"state\"".toList := by decide
      have hstate : s.state.encode = ("\"" ++ s.state.name ++ "\"").toList := by cases s.state <;> decide
      rw [hbody]
      unfold Snapshot.encode objectOf
      simp only [List.cons_append, List.nil_append, List.map_cons, commaJoin_cons, commaEach, hname, hstate]
      simp
    · rw [hbody]
      exact whole_of_spells (spells_snapshot hs)

/-! ## Health -/

/-- The word for a state that a probe is told. -/
def probeWord : SuspendState → String
  | .running => "READY"
  | .suspending => "SUSPENDING"
  | .suspended => "SUSPENDED"

/-- An answer tells a probe a state and how much is in flight, but for the body if that is left out. It has an
object with three members. -/
structure Probed (state : SuspendState) (outstanding : Int) (bare : Bool) (r : Response) : Prop where
  head : r = {
    status := if state = .running then 200 else 503, contentType := some "application/json", body := r.body }
  body : bare = false → ∃ number,
    r.body.toList = ("\x7b\"status\":\"" ++ probeWord state ++ "\",\"version\":\"" ++ version ++
      "\",\"outstanding\":").toList ++ number ++ "\x7d".toList ∧
    (-(signedBound : Int) ≤ outstanding → outstanding < signedBound → whole readInt number = .ok outstanding)
  bare : bare = true → r.body = ""

/-- **The health of a snapshot is what a probe is told.** -/
theorem probed_health (s : Snapshot) (bare : Bool) :
    Probed s.state ((s.gates.map GateStatus.outstanding).foldl (· + ·) 0) bare ((health s).behead bare) := by
  have hstatus : (health s).status = if s.state = .running then 200 else 503 := by
    unfold health Response.json
    cases s.state <;> rfl
  cases bare with
  | true => exact ⟨by rw [← hstatus]; rfl, nofun, fun _ => rfl⟩
  | false =>
    refine ⟨by rw [← hstatus]; rfl, fun _ => ⟨_, ?_, fun hlow hhigh => whole_of_spells (spells_integer hlow hhigh)⟩,
      nofun⟩
    have hfirst : textOf "status" = "\"status\"".toList := by decide
    have hword : (Health.ofState s.state).encode = ("\"" ++ probeWord s.state ++ "\"").toList := by
      cases s.state <;> decide
    have hsecond : textOf "version" = "\"version\"".toList := by decide
    have hversion : textOf version = ("\"" ++ version ++ "\"").toList := by decide
    have hthird : textOf "outstanding" = "\"outstanding\"".toList := by decide
    show (Response.json _ (objectOf _)).body.toList = _
    rw [toList_json]
    unfold objectOf
    simp only [List.map_cons, List.map_nil, commaJoin, hfirst, hword, hsecond, hversion, hthird]
    simp

end Http

end Sluice
