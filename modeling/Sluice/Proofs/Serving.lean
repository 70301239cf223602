import Sluice.Proofs.Performs
import Sluice.Server

/-!
# The server's gate and coordinator

The server has one gate, and one coordinator that nobody listens to. Both are determined by the permits
that are out, by whether the server is closed, and by a generation that only the switch moves on.

* `Load`: the permits and whether it is closed. `Load.gateOf`, `Load.pendingOf`: the gate, and what the
  coordinator waits for.
* `Poised`: the coordinator is that of a load.
* `Stands`: gate, coordinator and service are those of a load. `Stands.letIn`, `Stands.suspend`,
  `Stands.resume`, `Stands.letGo`: **what work that comes in, the switch, and work that ends do to it**.
-/

namespace Sluice.Server

open Http World Machine

/-- The permits that are out, and whether the server has been told to suspend and not to resume since. -/
structure Load where
  permits : List PermitId := []
  closed : Bool := false

/-- The state of a server that is closed or not, with so much in flight. -/
def stateOf (closed : Bool) (inFlight : Nat) : SuspendState :=
  if closed then if inFlight = 0 then .suspended else .suspending else .running

namespace Load

/-- The state that an operator sees. -/
def state (l : Load) : SuspendState := stateOf l.closed l.permits.length

/-- The gate, if it was closed under this generation. -/
def gateOf (l : Load) (n : Nat) : Gate where
  name := "http"
  state := if l.closed then if l.permits = [] then .drained else .draining else .running
  outstanding := l.permits.length
  permits := l.permits
  callback := if l.closed = true ∧ l.permits ≠ [] then some (.report coordinator n) else none

/-- What the coordinator waits for, under this generation. -/
def pendingOf (l : Load) (n : Nat) : Option Pending :=
  if l.closed = true ∧ l.permits ≠ [] then some ⟨n, [(gate, "http")]⟩ else none

variable (l : Load) (n : Nat) (p : PermitId)

@[simp] theorem gateOf_name : (l.gateOf n).name = "http" := rfl
@[simp] theorem gateOf_outstanding : (l.gateOf n).outstanding = l.permits.length := rfl

theorem gateOf_isOpen : (l.gateOf n).isOpen = !l.closed := by
  unfold Gate.isOpen gateOf
  cases l.closed
  · rfl
  · by_cases h : l.permits = [] <;> simp [h]

theorem gateOf_sound : (l.gateOf n).Sound := by
  refine ⟨rfl, fun hs => ?_, fun hs => ?_, fun hs => ?_⟩ <;> unfold gateOf at hs ⊢ <;>
    cases hc : l.closed <;> by_cases h : l.permits = [] <;> simp [hc, h] at hs ⊢
  exact List.length_pos_iff.2 h

theorem state_eq_running : l.state = .running ↔ l.closed = false := by
  unfold state stateOf
  cases l.closed
  · simp
  · by_cases h : l.permits = [] <;> simp [h]

variable {l n p}

theorem gateOf_letIn (hc : l.closed = false) :
    (l.gateOf n).letIn p = { l with permits := p :: l.permits : Load }.gateOf n := by
  unfold Gate.letIn gateOf
  simp [hc]

theorem gateOf_beginDrain (n' : Nat) :
    (l.gateOf n).beginDrain (.report coordinator n') = { l with closed := true : Load }.gateOf n' := by
  unfold Gate.beginDrain gateOf
  by_cases h : l.permits = [] <;> simp [h]

theorem gateOf_reopen (n' : Nat) :
    (l.gateOf n).reopen = { l with closed := false : Load }.gateOf n' := by
  unfold Gate.reopen gateOf
  simp

/-- **A permit comes back**, and if it is the last of a closed server, the gate hands its callback
out. -/
theorem gateOf_release (hp : p ∈ l.permits) :
    (l.gateOf n).release? p = some ({ l with permits := l.permits.erase p : Load }.gateOf n,
      if l.closed = true ∧ l.permits.erase p = [] then some (.report coordinator n) else none) := by
  have hne : l.permits ≠ [] := List.ne_nil_of_mem hp
  have hpos := List.length_pos_of_mem hp
  have hlen : (l.permits.length : Int) - 1 = (l.permits.erase p).length := by
    rw [List.length_erase_of_mem hp]
    omega
  have hlast : ((l.permits.erase p).length : Int) = 0 ↔ l.permits.erase p = [] := by
    rw [Int.natCast_eq_zero, List.length_eq_zero_iff]
  unfold Gate.release? gateOf
  simp only [hp, if_true, hlen, hlast]
  cases hc : l.closed with
  | false => simp
  | true => by_cases h : l.permits.erase p = [] <;> simp [h, hne, Gate.completeDrain]

end Load

/-! ## The coordinator -/

/-- The coordinator is that of a load: it has the one gate, nobody listens, and while it is closed it
waits for the permits that are out. -/
structure Poised (l : Load) (k : Coordinator) : Prop where
  gates : k.gates = [gate]
  listeners : k.listeners = []
  outbox : k.outbox = []
  dispatching : k.dispatching = false
  alive : k.isAlive = true
  state : k.state = l.state
  published : k.published = l.state
  pending : k.pending = l.pendingOf k.generation
  /-- It tells since when it is suspended, and nothing otherwise. -/
  timed : k.suspendedAt.isSome = true ↔ l.state = .suspended

section Poised

variable {l : Load} {k : Coordinator}

/-- Nobody listens. -/
theorem notify_of_listeners (hl : k.listeners = []) (h : Hook) : k.notify h = k := by
  unfold Coordinator.notify
  rw [hl]

theorem completed_of_listeners (hl : k.listeners = []) (date : String) :
    k.completed date =
      { k with
        state := .suspended, pending := none, suspendedAt := some date, published := .suspended
        version := k.version + 1 } := by
  unfold Coordinator.completed
  rw [notify_of_listeners (k := { k with pending := none, suspendedAt := some date }) hl]
  rfl

theorem closing_of_listeners (hl : k.listeners = []) :
    k.closing =
      { k with
        state := .suspending, generation := k.generation + 1, published := .suspending
        version := k.version + 1 } := by
  unfold Coordinator.closing
  rw [notify_of_listeners (k := { k with generation := k.generation + 1 }) hl]
  rfl

theorem reopening_of_listeners (hl : k.listeners = []) :
    k.reopening =
      { k with
        state := .running, generation := k.generation + 1, pending := none, suspendedAt := none
        published := .running, version := k.version + 1 } := by
  unfold Coordinator.reopening
  rw [notify_of_listeners
    (k := { k with generation := k.generation + 1, pending := none, suspendedAt := none }) hl]
  rfl

/-- Work comes in while the server is open. -/
theorem Poised.letIn (h : Poised l k) (hc : l.closed = false) (p : PermitId) :
    Poised { l with permits := p :: l.permits } k := by
  have hstate : ({ l with permits := p :: l.permits } : Load).state = l.state := by
    simp [Load.state, stateOf, hc]
  refine { h with state := ?_, published := ?_, pending := ?_, timed := ?_ }
  · rw [h.state, hstate]
  · rw [h.published, hstate]
  · rw [h.pending]
    simp [Load.pendingOf, hc]
  · rw [h.timed, hstate]

/-- A permit comes back that is not the last, or the server is open. -/
theorem Poised.leave (h : Poised l k) {p : PermitId} (hp : p ∈ l.permits)
    (hl : ¬ (l.closed = true ∧ l.permits.erase p = [])) :
    Poised { l with permits := l.permits.erase p } k := by
  have hne : l.permits ≠ [] := List.ne_nil_of_mem hp
  have hstate : ({ l with permits := l.permits.erase p } : Load).state = l.state := by
    unfold Load.state stateOf
    simp only [List.length_eq_zero_iff]
    cases hc : l.closed <;> simp_all
  refine { h with state := ?_, published := ?_, pending := ?_, timed := ?_ }
  · rw [h.state, hstate]
  · rw [h.published, hstate]
  · rw [h.pending]
    unfold Load.pendingOf
    cases hc : l.closed <;> simp_all
  · rw [h.timed, hstate]

/-- **Nothing is out any more** on a closed server. -/
theorem Poised.completed (h : Poised l k) (date : String) :
    Poised ⟨[], true⟩ (k.completed date) := by
  rw [completed_of_listeners h.listeners]
  exact { h with state := rfl, published := rfl, pending := rfl, timed := iff_of_true rfl rfl }

theorem Poised.suspendedWith (h : Poised l k) (date : String) :
    Poised { l with closed := true }
      (k.suspendedWith (if l.permits = [] then [] else [(gate, "http")]) date) := by
  have hclosing : k.closing.listeners = [] := by rw [closing_of_listeners h.listeners, h.listeners]
  unfold Coordinator.suspendedWith
  by_cases hn : l.permits = []
  · simp only [hn, if_true]
    rw [completed_of_listeners hclosing, closing_of_listeners h.listeners]
    exact { h with state := rfl, published := rfl, pending := rfl, timed := iff_of_true rfl rfl }
  · -- something is out, so it was not suspended before
    have hbefore : l.state ≠ .suspended := by
      unfold Load.state stateOf
      cases l.closed <;> simp [hn]
    simp only [hn, if_false, List.cons_ne_nil]
    rw [closing_of_listeners h.listeners]
    refine { h with state := ?_, published := ?_, pending := ?_, timed := ?_ }
    · simp [Load.state, stateOf, hn]
    · simp [Load.state, stateOf, hn]
    · simp [Load.pendingOf, hn]
    · exact iff_of_false (fun ht => hbefore (h.timed.1 ht)) (by simp [Load.state, stateOf, hn])

theorem Poised.reopening (h : Poised l k) : Poised { l with closed := false } k.reopening := by
  rw [reopening_of_listeners h.listeners]
  exact { h with state := rfl, published := rfl, pending := rfl, timed := iff_of_false nofun nofun }

end Poised

/-! ## The world -/

/-- Gate, coordinator and service are those of a load. -/
structure Stands (l : Load) (k : Coordinator) (w : World) : Prop where
  gate : w.gates gate = some (l.gateOf k.generation)
  coordinator : w.coordinators coordinator = some k
  service : ∃ y, w.services service = some y ∧ y.coordinator = Server.coordinator
  poised : Poised l k

section Stands

variable {l : Load} {k : Coordinator} {w w' : World} {p : PermitId}

theorem Stands.congr (h : Stands l k w) (hg : w'.gates = w.gates)
    (hc : w'.coordinators = w.coordinators) (hs : w'.services = w.services) : Stands l k w' := by
  refine ⟨?_, ?_, ?_, h.poised⟩
  · rw [hg, h.gate]
  · rw [hc, h.coordinator]
  · rw [hs]
    exact h.service

theorem Stands.coordinatorOf (h : Stands l k w) :
    w.coordinatorOf Server.service = some (Server.coordinator, k) := by
  obtain ⟨y, hy, hc⟩ := h.service
  unfold World.coordinatorOf
  simp only [hy, hc, h.coordinator, bind, Option.bind, pure]

/-- With nobody listening nothing is delivered. -/
theorem Stands.dispatch (h : Stands l k w) (s : List Activation) (after : After) :
    dispatch w s Server.coordinator after = finish w s after :=
  dispatch_eq_finish h.coordinator h.poised.outbox h.poised.dispatching

/-- What an operator sees. -/
theorem Stands.snapshot (h : Stands l k w) :
    w.snapshot k =
      ⟨l.state, k.generation, k.suspendedAt, [(l.gateOf k.generation).status], k.pendingNames⟩ := by
  unfold World.snapshot
  rw [h.poised.state, h.poised.gates]
  simp [h.gate]

/-- **Work comes in.** -/
theorem Stands.letIn (h : Stands l k w) (hc : l.closed = false) (p : PermitId) :
    Stands { l with permits := p :: l.permits } k
      (w.letIn Server.gate (l.gateOf k.generation) p) := by
  refine ⟨?_, h.coordinator, h.service, h.poised.letIn hc p⟩
  rw [← Load.gateOf_letIn hc]
  unfold World.letIn
  simp

theorem Stands.busy (h : Stands l k w) :
    w.busy k.gates = if l.permits = [] then [] else [(Server.gate, "http")] := by
  unfold World.busy
  rw [h.poised.gates]
  by_cases hn : l.permits = [] <;> simp [h.gate, hn]

/-- **The server is told to suspend.** -/
theorem Stands.suspend (h : Stands l k w) :
    Stands { l with closed := true } (k.suspendedWith (w.busy k.gates) w.date)
      (w.suspend Server.coordinator k) := by
  have hservices : (w.suspend Server.coordinator k).services = w.services :=
    congrArg (·.2.1) (suspend_remainder w Server.coordinator k)
  refine ⟨?_, ?_, ?_, ?_⟩
  · rw [suspend_gates, h.poised.gates, if_pos List.mem_cons_self, h.gate, Option.map_some,
      Load.gateOf_beginDrain, Coordinator.suspendedWith_generation]
  · rw [suspend_coordinators, Table.set_self]
  · rw [hservices]
    exact h.service
  · rw [h.busy]
    exact h.poised.suspendedWith w.date

/-- **The server is told to resume.** -/
theorem Stands.resume (h : Stands l k w) :
    Stands { l with closed := false } k.reopening (w.resume Server.coordinator k) := by
  have hservices : (w.resume Server.coordinator k).services = w.services :=
    congrArg (·.2.1) (resume_remainder w Server.coordinator k)
  refine ⟨?_, ?_, ?_, h.poised.reopening⟩
  · rw [resume_gates, h.poised.gates, if_pos List.mem_cons_self, h.gate, Option.map_some,
      Load.gateOf_reopen k.reopening.generation]
  · rw [resume_coordinators, Table.set_self]
  · rw [hservices]
    exact h.service

/-- **The last permit of a closed server comes back**: the gate reports it, and the suspend is
complete. -/
theorem Stands.completes (h : Stands l k w) (hc : l.closed = true) (hne : l.permits ≠ [])
    (hg : w'.gates Server.gate = some (Load.gateOf ⟨[], true⟩ k.generation))
    (hk : w'.coordinators = w.coordinators) (hr : w'.remainder = w.remainder) :
    ∃ v k', (∀ s after,
        fire w' s Server.gate (some (.report Server.coordinator k.generation)) after = finish v s after) ∧
      Stands ⟨[], true⟩ k' v ∧ v.remainder = w.remainder ∧ k'.generation = k.generation := by
  set u : World := w'.note (.fired Server.gate (.report Server.coordinator k.generation))
  have huk : u.coordinators Server.coordinator = some k := by
    rw [← h.coordinator, ← hk]
    rfl
  have hservices : w'.services = w.services := congrArg (·.2.1) hr
  -- the attempt waits for this gate alone
  have hpending : k.pending = some ⟨k.generation, [(Server.gate, "http")]⟩ := by
    rw [h.poised.pending, Load.pendingOf, if_pos ⟨hc, hne⟩]
  have hdrained : u.drained Server.coordinator k k.generation Server.gate =
      u.complete Server.coordinator k := by
    unfold World.drained World.strike
    simp [hpending, Pending.waitsFor, Pending.strike]
  have hv : Stands ⟨[], true⟩ (k.completed u.date) (u.complete Server.coordinator k) := by
    rw [complete_eq]
    refine ⟨?_, ?_, ?_, h.poised.completed u.date⟩
    · rw [note_gates, setCoordinator_gates, Coordinator.completed_generation]
      exact hg
    · rw [note_coordinators, setCoordinator_coordinators, Table.set_self]
    · obtain ⟨y, hy, hc⟩ := h.service
      exact ⟨y, (congrFun hservices _).trans hy, hc⟩
  refine ⟨_, _, fun s after => ?_, hv, ?_, Coordinator.completed_generation k u.date⟩
  · rw [← hv.dispatch s after, ← hdrained]
    unfold Machine.fire
    simp only [h.poised.alive, if_true, huk, u] at huk ⊢
  · rw [complete_eq]
    exact hr

/-- **A permit comes back**, and with the last one the callback of the gate completes the suspend. -/
theorem Stands.ends (h : Stands l k w) (hp : p ∈ l.permits) :
    ∃ y callback v k', (l.gateOf k.generation).release? p = some (y, callback) ∧
      (∀ s after, fire ((w.setGate Server.gate y).note (.returned Server.gate p)) s Server.gate
          callback after = finish v s after) ∧
        Stands { l with permits := l.permits.erase p } k' v ∧ v.remainder = w.remainder ∧
        k'.generation = k.generation := by
  set w' : World := (w.setGate Server.gate
    (({ l with permits := l.permits.erase p } : Load).gateOf k.generation)).note
      (.returned Server.gate p) with hw'
  have hgate : w'.gates Server.gate =
      some (({ l with permits := l.permits.erase p } : Load).gateOf k.generation) := by
    simp [hw']
  by_cases hl : l.closed = true ∧ l.permits.erase p = []
  · rw [hl.1, hl.2] at hgate
    obtain ⟨v, k', hv, hs, hr, hn⟩ := h.completes hl.1 (List.ne_nil_of_mem hp) hgate rfl rfl
    refine ⟨_, _, v, k', Load.gateOf_release hp, fun s after => ?_, ?_, hr, hn⟩
    · rw [if_pos hl]
      exact hv s after
    · rw [hl.1, hl.2]
      exact hs
  · refine ⟨_, _, w', k, Load.gateOf_release hp, fun s after => ?_,
      ⟨hgate, h.coordinator, h.service, h.poised.leave hp hl⟩, rfl, rfl⟩
    rw [if_neg hl]
    rfl

/-- The permit of a request that is answered comes back, or that of one that is dropped or has
panicked. -/
theorem Stands.letGo (h : Stands l k w) (hp : p ∈ l.permits) :
    ∃ v k', (∀ s r, respond w s ⟨p, Server.gate⟩ r = reply v s (.response r)) ∧
      (∀ s after, letGo w s ⟨p, Server.gate⟩ after = finish v s after) ∧
      Stands { l with permits := l.permits.erase p } k' v ∧ v.remainder = w.remainder ∧
      k'.generation = k.generation := by
  obtain ⟨y, callback, v, k', hrelease, hfire, hs, hr, hn⟩ := h.ends hp
  have hw : w.release Server.gate (l.gateOf k.generation) p =
      ((w.setGate Server.gate y).note (.returned Server.gate p), .ok callback) := by
    unfold World.release
    rw [hrelease]
  refine ⟨v, k', fun s r => ?_, fun s after => ?_, hs, hr, hn⟩
  · unfold respond
    simp only [h.gate, hw]
    exact hfire s _
  · unfold Machine.letGo World.drop
    simp only [h.gate, hw]
    exact hfire s after

end Stands

end Sluice.Server
