import Sluice.Proofs.Answers
import Sluice.Proofs.Serving

/-!
# The server under traffic

Requests come in, to the operator's routes or behind the gate, and the handlers of those that are let in
answer, panic, wait, go on or are dropped, all in any order. Seen from outside the server is a count of what
is in flight, and a switch.

* `Traffic`, `Traffic.next`: the count and the switch, and what a move does to them. `Traffic.Tells`: what an
  operator is told at a count and a switch.
* `Serving`: the world of a server is that of its traffic. `Serving.enter`, `Serving.leave`, `Serving.wake`,
  `Serving.park`, `Serving.suspend`, `Serving.resume`: what can happen to it.
* `Serving.command`, `Serving.refused`, `Serving.request_work`, `Serving.unanswered`: **how requests are
  answered**.
* `At.step`, `At.run`: every move keeps to the traffic, and so does every run. `server_exact`: what is seen
  of it.
-/

namespace Sluice

open Http Machine

/-- What goes on at a server, seen from outside. -/
structure Traffic where
  /-- How many handlers run. -/
  running : Nat := 0
  /-- The requests whose handlers wait. -/
  waiting : List RequestId := []
  /-- Whether the server has been told to suspend and not to resume since. -/
  closed : Bool := false
  /-- How often the switch has been thrown. -/
  generation : Nat := 0
  /-- The permits that have been taken: each is taken once. -/
  taken : List PermitId := []
  deriving DecidableEq

namespace Traffic

/-- How many requests have been let in and have not ended. -/
def inFlight (t : Traffic) : Nat := t.running + t.waiting.length

/-- The state that an operator is told. -/
def state (t : Traffic) : SuspendState := Server.stateOf t.closed t.inFlight

/-- The state of the gate. -/
def gateState (t : Traffic) : GateState :=
  if t.closed then if t.inFlight = 0 then .drained else .draining else .running

/-- The names of the gates that a suspend waits for. -/
def pendingNames (t : Traffic) : List String := if t.state = .suspending then ["http"] else []

/-- All that an operator is told, with the time since which the server is suspended. -/
def snapshot (t : Traffic) (since : Option String) : Snapshot :=
  ⟨t.state, t.generation, since, [⟨"http", t.gateState, t.inFlight⟩], t.pendingNames⟩

/-- A request is let in, and its handler runs. -/
def enter (t : Traffic) (p : PermitId) : Traffic :=
  { t with running := t.running + 1, taken := p :: t.taken }

/-- The handler that runs ends. -/
def leave (t : Traffic) : Traffic := { t with running := t.running - 1 }

theorem leave_idle {t : Traffic} (h : t.running = 0) : t.leave = t := by
  obtain ⟨running, _, _, _, _⟩ := t
  cases h
  rfl

/-- A handler that waits goes on. -/
def wake (t : Traffic) (r : RequestId) : Traffic :=
  { t with running := t.running + 1, waiting := t.waiting.erase r }

/-- The handler that runs waits. -/
def park (t : Traffic) (r : RequestId) : Traffic :=
  { t with running := t.running - 1, waiting := r :: t.waiting }

/-- The server is told to suspend. -/
def suspend (t : Traffic) : Traffic :=
  if t.closed then t else { t with closed := true, generation := t.generation + 1 }

/-- The server is told to resume. -/
def resume (t : Traffic) : Traffic :=
  if t.closed then { t with closed := false, generation := t.generation + 1 } else t

/-- A request comes in. Behind the gate one that the router answers by itself has ended at once. -/
def request (t : Traffic) (p : PermitId) : Route → Traffic
  | .command _ .suspend => t.suspend
  | .command _ .resume => t.resume
  | .command _ _ | .own _ => t
  | .gated _ l =>
    if t.closed = true ∨ p ∈ t.taken then t else if l.own = none then t.enter p else (t.enter p).leave

/-- What a move does. -/
def next (t : Traffic) : Move → Traffic
  | .call (.request site q p) => t.request p (site.route q)
  | .call (.finishRequest r) => if r ∈ t.waiting then t.wake r else t
  | .call (.cancelRequest r) => { t with waiting := t.waiting.erase r }
  | .call _ => t
  | .ret _ | .panic _ => t.leave
  | .park r => if t.running = 0 ∨ r ∈ t.waiting then t else t.park r

/-- What an operator is told at this traffic, once what was asked for is done. -/
def Tells (t : Traffic) (bare : Bool) : Command → Response → Prop
  | .health, r => Probed t.state t.inFlight bare r
  | .state, r => ∃ since, (since.isSome = true ↔ t.state = .suspended) ∧ Reports (t.snapshot since) 200 bare r
  | .suspend, r => ∃ since, (since.isSome = true ↔ t.state = .suspended) ∧ Reports (t.snapshot since) 202 false r
  | .resume, r => ∃ since, (since.isSome = true ↔ t.state = .suspended) ∧ Reports (t.snapshot since) 200 false r
  | .shutdown, r => r = { status := 200, body := "\x7b\x7d", contentType := some "application/json" }

end Traffic

namespace Server

open World
open scoped List

/-- The traffic of these moves, from the start of a server on. -/
def traffic (moves : List Move) : Traffic := moves.foldl Traffic.next {}

/-- The moves of the clients and of the handlers, while time goes by. -/
def Serves : Move → Prop
  | .call (.request x _ _) => x = site
  | .call (.finishRequest _) | .call (.cancelRequest _) | .call (.advance _) => True
  | .call _ => False
  | _ => True

/-! ## The routes -/

section Routes

variable {q : Request} {c : Command}

/-- The paths that the application works at. -/
def paths : Pattern := .under "/work/"

/-- Whether the application has work for a request. -/
def HasWork (q : Request) : Prop := paths.covers q.path = true ∧ q.method ∈ readMethods

instance : DecidablePred HasWork := fun _ => inferInstanceAs (Decidable (_ ∧ _))

/-- What is told where there is no work. -/
def absence (q : Request) : Response :=
  if paths.covers q.path then { status := 405, allow := some "GET,HEAD" } else { status := 404 }

theorem route_operator (hc : Command.ofPath? q.path = some c) :
    site.route q =
      if q.method ∈ c.methods then .command service c
      else .own { status := 405, allow := some (if c.isRead then "GET,HEAD" else "POST") } := by
  have hallowed : allowed c.methods = some (if c.isRead then "GET,HEAD" else "POST") := by cases c <;> decide
  unfold Site.route
  rw [hc, ← hallowed]
  rfl

/-- Whatever is not an operator's is behind the gate. -/
theorem route_gated (hn : Command.ofPath? q.path = none) : site.route q = .gated gate (paths.land q) := by
  unfold Site.route
  rw [hn]
  rfl

theorem land_work (h : HasWork q) : paths.land q = { edit := { headOnly := q.isHead } } := by
  unfold Pattern.land
  rw [if_pos h.1, if_pos h.2]

/-- Where there is no work the router answers by itself. -/
theorem land_absence (h : ¬ HasWork q) :
    ∃ r, (paths.land q).own = some r ∧ (paths.land q).edit.apply r = absence q := by
  have hallowed : allowed readMethods = some "GET,HEAD" := by decide
  unfold Pattern.land absence
  by_cases hcovers : paths.covers q.path = true
  · rw [if_pos hcovers, if_neg fun hq => h ⟨hcovers, hq⟩, if_pos hcovers, hallowed]
    exact ⟨_, rfl, rfl⟩
  · rw [if_neg hcovers, if_neg hcovers]
    exact ⟨_, rfl, rfl⟩

theorem land_own : (paths.land q).own = none ↔ HasWork q := by
  by_cases h : HasWork q
  · simp [land_work h, h]
  · obtain ⟨r, hr, -⟩ := land_absence h
    simp [hr, h]

end Routes

/-- The world of a server is that of its traffic: the permits that are out are those of the handlers that
run and of those that wait. -/
structure Serving (t : Traffic) (l : Load) (k : Coordinator) (rs : List Admission)
    (ws : List (RequestId × Admission)) (w : World) : Prop where
  stands : Stands l k w
  closed : l.closed = t.closed
  generation : k.generation = t.generation
  permits : (rs ++ ws.map Prod.snd).map Admission.permit ~ l.permits.map fun p => ⟨p, gate⟩
  running : rs.length = t.running
  waiting : ∀ r a, w.waiting r = some a ↔ (r, a) ∈ ws
  keys : ws.map Prod.fst ~ t.waiting
  nodup : t.waiting.Nodup
  taken : ∀ p, w.issuer p = none ↔ p ∉ t.taken

section Serving

variable {t : Traffic} {l : Load} {k : Coordinator} {rs : List Admission}
  {ws : List (RequestId × Admission)} {w : World} {a : Admission} {p : PermitId} {r : RequestId}
  {q : Request}

/-- What is out is what is in flight. -/
theorem Serving.inFlight (h : Serving t l k rs ws w) : l.permits.length = t.inFlight := by
  have hp := h.permits.length_eq
  have hk := h.keys.length_eq
  simp only [List.length_map, List.length_append] at hp hk
  rw [← hp, hk, h.running]
  rfl

theorem Serving.state (h : Serving t l k rs ws w) : l.state = t.state := by
  unfold Load.state Traffic.state
  rw [h.closed, h.inFlight]

/-- What is out is shown. -/
theorem Serving.snapshot (h : Serving t l k rs ws w) :
    w.snapshot k = t.snapshot k.suspendedAt ∧ (k.suspendedAt.isSome = true ↔ t.state = .suspended) := by
  have hcount := h.inFlight
  have hempty : l.permits = [] ↔ t.inFlight = 0 := by rw [← hcount, List.length_eq_zero_iff]
  have hstatus : (l.gateOf k.generation).status = ⟨"http", t.gateState, t.inFlight⟩ := by
    unfold Gate.status Load.gateOf Traffic.gateState
    simp only [h.closed, hcount, hempty]
  have hnames : k.pendingNames = t.pendingNames := by
    unfold Coordinator.pendingNames Traffic.pendingNames Traffic.state stateOf
    rw [h.stands.poised.pending, Load.pendingOf, h.closed]
    cases t.closed <;> by_cases hn : t.inFlight = 0 <;> simp [hempty, hn]
  refine ⟨?_, h.state ▸ h.stands.poised.timed⟩
  rw [h.stands.snapshot, h.state, hstatus, hnames, h.generation]
  rfl

/-- Something changes besides the permits. -/
theorem Serving.congr {v : World} (h : Serving t l k rs ws w) (hs : Stands l k v)
    (hi : v.issuer = w.issuer) (hw : v.waiting = w.waiting) : Serving t l k rs ws v :=
  { h with stands := hs, waiting := hw ▸ h.waiting, taken := hi ▸ h.taken }

theorem Serving.mem_waiting (h : Serving t l k rs ws w) :
    r ∈ t.waiting ↔ ∃ a, w.waiting r = some a := by
  rw [← h.keys.mem_iff, List.mem_map]
  constructor
  · rintro ⟨⟨r, a⟩, hm, rfl⟩
    exact ⟨a, (h.waiting r a).2 hm⟩
  · rintro ⟨a, ha⟩
    exact ⟨(r, a), (h.waiting r a).1 ha, rfl⟩

theorem Serving.not_mem_waiting (h : Serving t l k rs ws w) (hr : w.waiting r = none) :
    r ∉ t.waiting := fun hm => by
  obtain ⟨a, ha⟩ := h.mem_waiting.1 hm
  cases hr.symm.trans ha

/-- The permit of a handler is out. -/
theorem Serving.permit (h : Serving t l k (a :: rs) ws w) :
    a.permit.id ∈ l.permits ∧ a.permit = ⟨a.permit.id, gate⟩ := by
  have hm : a.permit ∈ l.permits.map fun p => (⟨p, gate⟩ : Permit) :=
    h.permits.mem_iff.1 (List.mem_map_of_mem List.mem_cons_self)
  obtain ⟨p, hp, e⟩ := List.mem_map.1 hm
  rw [← e]
  exact ⟨hp, rfl⟩

/-- **A request is let in.** -/
theorem Serving.enter (h : Serving t l k rs ws w) (hc : t.closed = false)
    (ha : a.permit = ⟨p, gate⟩) :
    Serving (t.enter p) { l with permits := p :: l.permits } k (a :: rs) ws
      (w.letIn gate (l.gateOf k.generation) p) where
  stands := h.stands.letIn (h.closed.trans hc) p
  closed := h.closed
  generation := h.generation
  permits := by
    simp only [List.cons_append, List.map_cons, ha]
    exact h.permits.cons _
  running := congrArg (· + 1) h.running
  waiting := h.waiting
  keys := h.keys
  nodup := h.nodup
  taken := fun x => by
    have ht := h.taken x
    show w.issuer.set p gate x = none ↔ x ∉ p :: t.taken
    by_cases hx : x = p
    · simp [hx]
    · simp [Table.set_of_ne _ _ hx, hx, ht]

/-- **The handler that runs ends**, and gives its permit back in some way. -/
theorem Serving.leave (h : Serving t l k (a :: rs) ws w) :
    ∃ v l' k', (∀ s r, respond w s a.permit r = reply v s (.response r)) ∧
      (∀ s after, letGo w s a.permit after = finish v s after) ∧
      Serving t.leave l' k' rs ws v ∧ v.issuer = w.issuer := by
  obtain ⟨hp, ha⟩ := h.permit
  obtain ⟨v, k', hrespond, hletGo, hs, hr, hn⟩ := h.stands.letGo hp
  have hissuer : v.issuer = w.issuer := congrArg (·.1) hr
  have hwaiting : v.waiting = w.waiting := congrArg (·.2.2.2.1) hr
  rw [ha]
  refine ⟨v, _, k', hrespond, hletGo,
    ⟨hs, h.closed, hn.trans h.generation, ?_, ?_, ?_, h.keys, h.nodup, ?_⟩, hissuer⟩
  · -- one permit is out no longer
    have hinj : Function.Injective fun p : PermitId => (⟨p, gate⟩ : Permit) :=
      fun _ _ e => congrArg Permit.id e
    have he := h.permits.erase a.permit
    rw [List.cons_append, List.map_cons, List.erase_cons_head, ha, ← List.map_erase hinj] at he
    exact he
  · exact (congrArg (· - 1) h.running : _)
  · rw [hwaiting]
    exact h.waiting
  · rw [hissuer]
    exact h.taken

/-- **A handler that waits goes on.** -/
theorem Serving.wake (h : Serving t l k rs ws w) (hr : w.waiting r = some a) :
    Serving (t.wake r) l k (a :: rs) (ws.erase (r, a)) { w with waiting := w.waiting.erase r } := by
  have hws : ws ~ (r, a) :: ws.erase (r, a) := List.perm_cons_erase ((h.waiting r a).1 hr)
  have hkeys : t.waiting ~ r :: (ws.erase (r, a)).map Prod.fst :=
    h.keys.symm.trans (hws.map Prod.fst)
  have hgone : r ∉ (ws.erase (r, a)).map Prod.fst :=
    (List.nodup_cons.1 (hkeys.nodup_iff.1 h.nodup)).1
  refine ⟨h.stands.congr rfl rfl rfl, h.closed, h.generation, ?_, congrArg (· + 1) h.running, fun r' a' => ?_,
    ?_, h.nodup.erase r, h.taken⟩
  · have hsnd : a :: rs ++ (ws.erase (r, a)).map Prod.snd ~ rs ++ ws.map Prod.snd :=
      List.perm_middle.symm.trans ((hws.map Prod.snd).symm.append_left rs)
    exact (hsnd.map _).trans h.permits
  · by_cases hx : r' = r
    · subst hx
      simp only [Table.erase_self, reduceCtorEq, false_iff]
      exact fun hm => hgone (List.mem_map.2 ⟨_, hm, rfl⟩)
    · have hne : (r', a') ≠ (r, a) := fun e => hx (congrArg Prod.fst e)
      rw [List.mem_erase_of_ne hne, ← h.waiting]
      simp only [Table.erase_of_ne _ hx]
  · have he := (hkeys.erase r).symm
    rw [List.erase_cons_head] at he
    exact he

/-- **The handler that runs waits.** -/
theorem Serving.park (h : Serving t l k (a :: rs) ws w) (hr : w.waiting r = none) :
    Serving (t.park r) l k rs ((r, a) :: ws) { w with waiting := w.waiting.set r a } := by
  refine ⟨h.stands.congr rfl rfl rfl, h.closed, h.generation, ?_, (congrArg (· - 1) h.running : _), fun r' a' => ?_,
    h.keys.cons r, List.nodup_cons.2 ⟨h.not_mem_waiting hr, h.nodup⟩, h.taken⟩
  · have hsnd : rs ++ ((r, a) :: ws).map Prod.snd ~ a :: rs ++ ws.map Prod.snd := List.perm_middle
    exact (hsnd.map _).trans h.permits
  · by_cases hx : r' = r
    · subst hx
      have hno : (r', a') ∉ ws := fun hm => by cases hr.symm.trans ((h.waiting _ _).2 hm)
      simp [hno, eq_comm]
    · simp [Table.set_of_ne _ _ hx, hx, h.waiting]

/-- The server has come to where its traffic says. -/
def At (t : Traffic) (m : Machine) : Prop :=
  m.signal ≠ .aborted ∧
    ∃ l k rs ws, m.stack = rs.map Activation.handler ∧ Serving t l k rs ws m.world

theorem Serving.at_signal (h : Serving t l k rs ws w) {x : Signal} (hx : x ≠ .aborted) :
    At t ⟨w, rs.map .handler, x⟩ := ⟨hx, l, k, rs, ws, rfl, h⟩

theorem Serving.at_reply (h : Serving t l k rs ws w) (x : Reply) :
    At t (reply w (rs.map .handler) x) := h.at_signal (by simp)

/-! ## The operator -/

/-- The switch is thrown. -/
theorem Serving.switch {v : World} {k' : Coordinator} (h : Serving t l k rs ws w) (closed : Bool)
    (hs : Stands { l with closed } k' v) (hn : k'.generation = k.generation + 1)
    (hr : v.issuer = w.issuer ∧ v.waiting = w.waiting) :
    Serving { t with closed, generation := t.generation + 1 } { l with closed } k' rs ws v where
  stands := hs
  closed := rfl
  generation := hn.trans (congrArg (· + 1) h.generation)
  permits := h.permits
  running := h.running
  waiting := hr.2 ▸ h.waiting
  keys := h.keys
  nodup := h.nodup
  taken := hr.1 ▸ h.taken

theorem Serving.running_iff (h : Serving t l k rs ws w) : k.state = .running ↔ t.closed = false := by
  rw [h.stands.poised.state, l.state_eq_running, h.closed]

/-- **The server is closed** by an operator, whether it was or not. -/
theorem Serving.suspend (h : Serving t l k rs ws w) :
    ∃ v l' k', (∀ s after, suspendService w s service after = finish v s (after coordinator)) ∧
      Serving t.suspend l' k' rs ws v ∧ v.issuer = w.issuer ∧ l'.permits = l.permits := by
  have hk := h.stands.coordinatorOf
  unfold Traffic.suspend
  by_cases hc : t.closed = true
  · have hne : k.state ≠ .running := fun hs => by cases hc.symm.trans (h.running_iff.1 hs)
    rw [if_pos hc]
    refine ⟨w, l, k, fun s after => ?_, h, rfl, rfl⟩
    simp only [suspendService, hk, Machine.suspend, h.stands.coordinator, if_neg hne]
  · have hs := h.stands.suspend
    have hr := suspend_remainder w coordinator k
    have hn := Coordinator.suspendedWith_generation k (w.busy k.gates) w.date
    have he : k.state = .running := h.running_iff.2 (Bool.not_eq_true _ ▸ hc)
    rw [if_neg hc]
    refine ⟨_, _, _, fun s after => ?_, h.switch true hs hn ⟨congrArg (·.1) hr, congrArg (·.2.2.2.1) hr⟩,
      congrArg (·.1) hr, rfl⟩
    simp only [suspendService, hk, Machine.suspend, h.stands.coordinator, if_pos he, hs.dispatch]

/-- **The server is opened** by an operator, whether it was or not. -/
theorem Serving.resume (h : Serving t l k rs ws w) :
    ∃ v l' k', (∀ s after, resumeService w s service after = finish v s (after coordinator)) ∧
      Serving t.resume l' k' rs ws v ∧ v.issuer = w.issuer ∧ l'.permits = l.permits := by
  have hk := h.stands.coordinatorOf
  unfold Traffic.resume
  by_cases hc : t.closed = true
  · have hs := h.stands.resume
    have hr := resume_remainder w coordinator k
    have hne : k.state ≠ .running := fun he => by cases hc.symm.trans (h.running_iff.1 he)
    have hn := Coordinator.reopening_generation k
    rw [if_pos hc]
    refine ⟨_, _, _, fun s after => ?_, h.switch false hs hn ⟨congrArg (·.1) hr, congrArg (·.2.2.2.1) hr⟩,
      congrArg (·.1) hr, rfl⟩
    simp only [resumeService, hk, Machine.resume, h.stands.coordinator, if_neg hne, hs.dispatch]
  · have he : k.state = .running := h.running_iff.2 (Bool.not_eq_true _ ▸ hc)
    rw [if_neg hc]
    refine ⟨w, l, k, fun s after => ?_, h, rfl, rfl⟩
    simp only [resumeService, hk, Machine.resume, h.stands.coordinator, if_pos he]

/-- What is shown of the server reports its traffic. -/
theorem Serving.reports (h : Serving t l k rs ws w) (status : Nat) (bare : Bool) :
    ∃ since, (since.isSome = true ↔ t.state = .suspended) ∧
      Reports (t.snapshot since) status bare ((shown status (w.snapshot k)).behead bare) := by
  refine ⟨k.suspendedAt, h.snapshot.2, ?_⟩
  rw [← h.snapshot.1]
  exact reports_shown _ _ _

theorem Serving.probed (h : Serving t l k rs ws w) (bare : Bool) :
    Probed t.state t.inFlight bare ((health (w.snapshot k)).behead bare) := by
  have hp := probed_health (w.snapshot k) bare
  rw [h.snapshot.1] at hp ⊢
  simpa [Traffic.snapshot] using hp

/-- **What an operator asks for is done**, and what the operator is told is how it is then. -/
theorem Serving.command (h : Serving t l k rs ws w) (c : Command) (head : Bool) (p : PermitId) :
    ∃ v l' k' r, (∀ s, command w s service c head = reply v s (.response r)) ∧
      (t.request p (.command service c)).Tells head c r ∧
      Serving (t.request p (.command service c)) l' k' rs ws v ∧ v.issuer = w.issuer ∧
      l'.permits = l.permits := by
  have hk := h.stands.coordinatorOf
  cases c with
  | health =>
    refine ⟨w, l, k, _, fun s => ?_, h.probed head, h, rfl, rfl⟩
    simp only [Machine.command, hk]
  | state =>
    refine ⟨w, l, k, _, fun s => ?_, h.reports 200 head, h, rfl, rfl⟩
    simp only [Machine.command, hk]
  | suspend =>
    obtain ⟨v, l', k', he, hs, hi, hp⟩ := h.suspend
    refine ⟨v, l', k', _, fun s => ?_, hs.reports 202 false, hs, hi, hp⟩
    simp only [Machine.command, hk, he, finish, hs.stands.coordinator]
    rfl
  | resume =>
    obtain ⟨v, l', k', he, hs, hi, hp⟩ := h.resume
    refine ⟨v, l', k', _, fun s => ?_, hs.reports 200 false, hs, hi, hp⟩
    simp only [Machine.command, hk, he, finish, hs.stands.coordinator]
    rfl
  | shutdown =>
    obtain ⟨y, hy, hc⟩ := h.stands.service
    refine ⟨w.shutdown service y, l, k, stopping, fun s => ?_, rfl, ?_, rfl, rfl⟩
    · simp only [Machine.command, hk, Machine.shutdown, hy]
    · have hs : Stands l k (w.shutdown service y) :=
        ⟨h.stands.gate, h.stands.coordinator, ⟨_, Table.set_self w.services service _, hc⟩,
          h.stands.poised⟩
      exact h.congr hs rfl rfl

/-- **An operator is answered** whatever the server is doing, and takes no permit. -/
theorem Serving.operator {c : Command} (h : Serving t l k rs ws w)
    (hc : Command.ofPath? q.path = some c) (p : PermitId) :
    ∃ v l' k' r, (∀ s, request w s site q p = reply v s (.response r)) ∧
      (if q.method ∈ c.methods then (t.request p (site.route q)).Tells q.isHead c r
        else r = { status := 405, allow := some (if c.isRead then "GET,HEAD" else "POST") }) ∧
      Serving (t.request p (site.route q)) l' k' rs ws v ∧ v.issuer = w.issuer ∧
      l'.permits = l.permits := by
  have hr := route_operator hc
  by_cases hm : q.method ∈ c.methods
  · rw [if_pos hm] at hr
    obtain ⟨v, l', k', r, he, ht, hs, hi, hp⟩ := h.command c q.isHead p
    rw [hr]
    refine ⟨v, l', k', r, fun s => ?_, ?_, hs, hi, hp⟩
    · rw [← he s]
      unfold Machine.request
      rw [hr]
    · rw [if_pos hm]
      exact ht
  · rw [if_neg hm] at hr
    rw [hr]
    refine ⟨w, l, k, _, fun s => ?_, (if_neg hm).mpr rfl, h, rfl, rfl⟩
    unfold Machine.request
    rw [hr]

/-! ## Behind the gate -/

theorem Serving.isOpen (h : Serving t l k rs ws w) :
    (l.gateOf k.generation).isOpen = !t.closed := by
  rw [Load.gateOf_isOpen, h.closed]

theorem request_gated (hn : Command.ofPath? q.path = none) (s : List Activation) :
    request w s site q p = behindGate w s gate (paths.land q) q p := by
  unfold Machine.request
  rw [route_gated hn]

/-- What a request is told that a closed server turns away. -/
structure Refused (q : Request) (r : Response) : Prop where
  status : r.status = 503
  retryAfter : r.retryAfter = some "5"
  contentType : r.contentType = some "application/json"
  error : q.isHead = false → Json.TellsError r.body "Gate 'http' is draining and not admitting new work"

/-- **Nobody who is behind the gate is let in while the server is closed.** -/
theorem Serving.refused (h : Serving t l k rs ws w) (hn : Command.ofPath? q.path = none)
    (hc : t.closed = true) (hp : p ∉ t.taken) :
    ∃ r, Refused q r ∧ ∀ s, request w s site q p = reply w s (.response r) := by
  have hi : w.issuer p = none := (h.taken p).2 hp
  have hopen : (l.gateOf k.generation).isOpen = false := h.isOpen.trans (congrArg (! ·) hc)
  have haway : w.turnAway gate (l.gateOf k.generation) = (w, none) :=
    turnAway_eq h.stands.gate (Load.gateOf_sound _ _)
  obtain ⟨hstatus, hretry, htype, herror, -⟩ := apply_refusal (paths.land q).edit "http"
  have hhead (hq : q.isHead = false) : (paths.land q).edit.headOnly = false := by
    refine Bool.not_eq_true _ ▸ fun he => ?_
    cases hq.symm.trans ((Router.get paths).headOnly q he)
  refine ⟨_, ⟨hstatus, hretry, htype, fun hq => herror (hhead hq)⟩, fun s => ?_⟩
  rw [request_gated hn]
  simp only [behindGate, h.stands.gate, hi, hopen, Bool.false_eq_true, if_false, Machine.turnAway, haway]
  rfl

/-- A permit is taken once. -/
theorem Serving.request_taken (h : Serving t l k rs ws w) (hn : Command.ofPath? q.path = none)
    (hp : p ∈ t.taken) (s : List Activation) : request w s site q p = reply w s .absent := by
  obtain ⟨g, hg⟩ := Option.ne_none_iff_exists'.1 fun hi => (h.taken p).1 hi hp
  rw [request_gated hn]
  simp only [behindGate, h.stands.gate, hg]

/-- The work of a request starts while the server is open. -/
theorem Serving.request_work (h : Serving t l k rs ws w) (hn : Command.ofPath? q.path = none)
    (hq : HasWork q) (hc : t.closed = false) (hp : p ∉ t.taken) (s : List Activation) :
    request w s site q p =
      ⟨w.letIn gate (l.gateOf k.generation) p, .handler ⟨⟨p, gate⟩, { headOnly := q.isHead }, q.path⟩ :: s,
        .entered⟩ := by
  have hi : w.issuer p = none := (h.taken p).2 hp
  have hopen : (l.gateOf k.generation).isOpen = true := h.isOpen.trans (congrArg (! ·) hc)
  rw [request_gated hn]
  simp only [behindGate, h.stands.gate, hi, hopen, if_true, land_work hq]

/-- A request that there is no work for is let in, too, and has ended at once. -/
theorem Serving.unanswered (h : Serving t l k rs ws w) (hn : Command.ofPath? q.path = none)
    (hq : ¬ HasWork q) (hc : t.closed = false) (hp : p ∉ t.taken) :
    ∃ v l' k', (∀ s, request w s site q p = reply v s (.response (absence q))) ∧
      Serving (t.enter p).leave l' k' rs ws v ∧ v.issuer = w.issuer.set p gate := by
  have hi : w.issuer p = none := (h.taken p).2 hp
  have hopen : (l.gateOf k.generation).isOpen = true := h.isOpen.trans (congrArg (! ·) hc)
  obtain ⟨answer, hown, hanswer⟩ := land_absence hq
  obtain ⟨v, l', k', hrespond, -, hs, hv⟩ := (h.enter (a := ⟨⟨p, gate⟩, {}, q.path⟩) hc rfl).leave
  refine ⟨v, l', k', fun s => ?_, hs, hv⟩
  rw [← hrespond, ← hanswer, request_gated hn]
  simp only [behindGate, h.stands.gate, hi, hopen, if_true, hown]

/-- **A request keeps the server to its traffic.** -/
theorem Serving.at_request (h : Serving t l k rs ws w) (q : Request) (p : PermitId) :
    At (t.request p (site.route q)) (request w (rs.map .handler) site q p) := by
  cases hn : Command.ofPath? q.path with
  | some c =>
    obtain ⟨v, l', k', r, he, -, hs, -⟩ := h.operator hn p
    rw [he]
    exact hs.at_reply _
  | none =>
    rw [route_gated hn]
    simp only [Traffic.request, land_own]
    by_cases hp : p ∈ t.taken
    · rw [if_pos (.inr hp), h.request_taken hn hp]
      exact h.at_reply _
    by_cases hc : t.closed = true
    · obtain ⟨r, -, he⟩ := h.refused hn hc hp
      rw [if_pos (.inl hc), he]
      exact h.at_reply _
    rw [if_neg fun ho => ho.elim hc hp]
    have hc : t.closed = false := Bool.not_eq_true _ ▸ hc
    by_cases hq : HasWork q
    · rw [if_pos hq, h.request_work hn hq hc hp]
      exact (h.enter (a := ⟨⟨p, gate⟩, { headOnly := q.isHead }, q.path⟩) hc rfl).at_signal (by simp)
    · obtain ⟨v, l', k', he, hs, -⟩ := h.unanswered hn hq hc hp
      rw [if_neg hq, he]
      exact hs.at_reply _

/-! ## Handlers -/

theorem Serving.at_finishRequest (h : Serving t l k rs ws w) (r : RequestId) :
    At (if r ∈ t.waiting then t.wake r else t) (finishRequest w (rs.map .handler) r) := by
  unfold finishRequest
  cases hr : w.waiting r with
  | none =>
    rw [if_neg (h.not_mem_waiting hr)]
    exact h.at_reply _
  | some a =>
    rw [if_pos (h.mem_waiting.2 ⟨a, hr⟩)]
    exact (h.wake hr).at_signal (by simp)

theorem Serving.at_cancelRequest (h : Serving t l k rs ws w) (r : RequestId) :
    At { t with waiting := t.waiting.erase r } (cancelRequest w (rs.map .handler) r) := by
  unfold cancelRequest
  cases hr : w.waiting r with
  | none =>
    rw [List.erase_of_not_mem (h.not_mem_waiting hr)]
    exact h.at_reply _
  | some a =>
    -- it ends as if it had gone on before
    obtain ⟨v, l', k', -, hletGo, hv, -⟩ := (h.wake hr).leave
    simp only [hletGo]
    exact hv.at_reply _

theorem Serving.at_ret (h : Serving t l k rs ws w) (x : Response) :
    At t.leave (ret w x (rs.map .handler)) := by
  cases rs with
  | nil =>
    rw [Traffic.leave_idle h.running.symm]
    exact h.at_reply _
  | cons a rs =>
    obtain ⟨v, l', k', hrespond, -, hv, -⟩ := h.leave
    simp only [List.map_cons, ret, hrespond]
    exact hv.at_reply _

theorem Serving.at_panic (h : Serving t l k rs ws w) (payload : Payload) :
    At t.leave (Machine.panic w payload (rs.map .handler)) := by
  cases rs with
  | nil =>
    rw [Traffic.leave_idle h.running.symm]
    exact h.at_signal (by simp)
  | cons a rs =>
    obtain ⟨v, l', k', -, hletGo, hv, -⟩ := h.leave
    simp only [List.map_cons, Machine.panic, hletGo]
    exact hv.at_signal (by simp)

theorem Serving.at_park (h : Serving t l k rs ws w) (r : RequestId) :
    At (if t.running = 0 ∨ r ∈ t.waiting then t else t.park r) (Machine.park w r (rs.map .handler)) := by
  unfold Machine.park
  cases rs with
  | nil =>
    rw [if_pos (.inl h.running.symm)]
    exact h.at_reply _
  | cons a rs =>
    have hpos : t.running ≠ 0 := h.running ▸ Nat.succ_ne_zero rs.length
    cases hr : w.waiting r with
    | some b =>
      rw [if_pos (.inr (h.mem_waiting.2 ⟨b, hr⟩))]
      simp only [List.map_cons]
      exact h.at_reply _
    | none =>
      rw [if_neg fun ho => ho.elim hpos (h.not_mem_waiting hr)]
      simp only [List.map_cons]
      exact (h.park hr).at_signal (by simp)

end Serving

/-! ## Runs -/

section Runs

variable {t : Traffic} {m : Machine}

/-- **Every move keeps to the traffic.** -/
theorem At.step (h : At t m) {move : Move} (hm : Serves move) : At (t.next move) (step m move) := by
  obtain ⟨hsignal, l, k, rs, ws, hstack, hs⟩ := h
  unfold Machine.step
  rw [if_neg hsignal, hstack]
  cases move with
  | call op =>
    cases op with
    | request x q p =>
      cases hm
      exact hs.at_request q p
    | finishRequest r => exact hs.at_finishRequest r
    | cancelRequest r => exact hs.at_cancelRequest r
    | advance nanos =>
      let v : World := { m.world with clock := m.world.clock + nanos }
      have hv : Serving t l k rs ws v := hs.congr (hs.stands.congr rfl rfl rfl) rfl rfl
      exact hv.at_reply _
    | _ => exact hm.elim
  | ret x => exact hs.at_ret x
  | panic payload => exact hs.at_panic payload
  | park r => exact hs.at_park r

/-- **Every run keeps to its traffic.** -/
theorem At.run (h : At t m) {moves : List Move} (hm : ∀ move ∈ moves, Serves move) :
    At (moves.foldl Traffic.next t) (run m moves) := by
  induction moves generalizing t m with
  | nil => exact h
  | cons move moves ih =>
    exact ih (h.step (hm move List.mem_cons_self)) fun x hx => hm x (List.mem_cons_of_mem _ hx)

/-- Nothing is in flight on a server that has started. -/
theorem at_start {date : String} {env : ServerConfig.Environment} {s : Server}
    (hs : Server.start date env = .ok s) : At {} s.machine := by
  have hm : s.machine = run { world := { date } } (setup.map .call) := by
    unfold Server.start at hs
    split at hs
    · cases hs
    split at hs <;> cases hs
    rfl
  rw [hm]
  set m := run { world := { date } } (setup.map .call)
  have hsignal : m.signal = .replied .done := rfl
  have hstands : Stands {} { gates := [gate] } m.world :=
    ⟨rfl, rfl, ⟨_, rfl, rfl⟩, ⟨rfl, rfl, rfl, rfl, rfl, rfl, rfl, rfl, iff_of_false nofun nofun⟩⟩
  have hserving : Serving {} {} { gates := [gate] } [] [] m.world :=
    ⟨hstands, rfl, rfl, .nil, rfl, fun _ _ => iff_of_false (Option.some_ne_none _).symm List.not_mem_nil, .nil,
      .nil, fun _ => iff_of_true rfl List.not_mem_nil⟩
  exact ⟨by simp [hsignal], {}, _, [], [], rfl, hserving⟩

/-- What is seen of a server at this traffic. -/
structure Shown (t : Traffic) (x : Gate) (k : Coordinator) (m : Machine) : Prop where
  gate : m.world.gates gate = some x
  coordinator : m.world.coordinators coordinator = some k
  /-- The handlers that run, and those that wait. -/
  running : m.stack.length = t.running
  handlers : ∀ a ∈ m.stack, ∃ b : Admission, a = .handler b ∧ b.permit.gate = Server.gate
  waiting : ∀ r, r ∈ t.waiting ↔ ∃ a, m.world.waiting r = some a
  outstanding : x.outstanding = t.inFlight
  published : k.published = t.state
  snapshot : m.world.snapshot k = t.snapshot k.suspendedAt

/-- How a server at this traffic answers a request. -/
structure Answers (t : Traffic) (x : Gate) (m : Machine) (q : Request) (p : PermitId) : Prop where
  /-- An operator is told how it is once what was asked for is done, and nothing is let in. -/
  operator : ∀ c, Command.ofPath? q.path = some c → ∃ v r k' x',
    step m (.call (.request site q p)) = reply v m.stack (.response r) ∧
    (if q.method ∈ c.methods then (t.next (.call (.request site q p))).Tells q.isHead c r
      else r = { status := 405, allow := some (if c.isRead then "GET,HEAD" else "POST") }) ∧
    v.coordinators coordinator = some k' ∧ v.gates gate = some x' ∧ x'.permits = x.permits ∧
    v.issuer = m.world.issuer
  /-- Behind the gate of a closed server nothing starts. -/
  refused : Command.ofPath? q.path = none → p ∉ t.taken → t.closed = true →
    ∃ r, Refused q r ∧
      step m (.call (.request site q p)) = reply m.world m.stack (.response r)
  /-- Behind the gate of an open one the request is let in, and its work starts. -/
  admitted : Command.ofPath? q.path = none → p ∉ t.taken → t.closed = false → HasWork q →
    ∃ v, step m (.call (.request site q p)) =
        ⟨v, .handler ⟨⟨p, gate⟩, { headOnly := q.isHead }, q.path⟩ :: m.stack, .entered⟩ ∧
      v.issuer p = some gate
  /-- So is one that there is no work for, and it ends with the answer. -/
  unanswered : Command.ofPath? q.path = none → p ∉ t.taken → t.closed = false → ¬ HasWork q →
    ∃ v, step m (.call (.request site q p)) = reply v m.stack (.response (absence q)) ∧
      v.issuer p = some gate

theorem Serving.shown {l : Load} {k : Coordinator} {rs : List Admission}
    {ws : List (RequestId × Admission)} (h : Serving t l k rs ws m.world)
    (hs : m.stack = rs.map Activation.handler) : Shown t (l.gateOf k.generation) k m := by
  refine ⟨h.stands.gate, h.stands.coordinator, ?_, fun a ha => ?_, fun r => h.mem_waiting, ?_, ?_, h.snapshot.1⟩
  · rw [hs, List.length_map, h.running]
  · rw [hs] at ha
    obtain ⟨b, hb, rfl⟩ := List.mem_map.1 ha
    have hm : b.permit ∈ l.permits.map fun p => (⟨p, Server.gate⟩ : Permit) :=
      h.permits.mem_iff.1 (List.mem_map_of_mem (List.mem_append_left _ hb))
    obtain ⟨p, -, e⟩ := List.mem_map.1 hm
    exact ⟨b, rfl, by rw [← e]⟩
  · rw [Load.gateOf_outstanding, h.inFlight]
  · rw [h.stands.poised.published, h.state]

theorem Serving.answers {l : Load} {k : Coordinator} {rs : List Admission}
    {ws : List (RequestId × Admission)} (h : Serving t l k rs ws m.world) (hs : m.signal ≠ .aborted)
    (q : Request) (p : PermitId) : Answers t (l.gateOf k.generation) m q p := by
  have hstep : Machine.step m (.call (.request site q p)) =
      Machine.request m.world m.stack site q p := by
    unfold Machine.step
    rw [if_neg hs]
    rfl
  constructor <;> rw [hstep]
  · intro c hc
    obtain ⟨v, l', k', r, he, ht, hv, hi, hp⟩ := h.operator hc p
    exact ⟨v, r, k', _, he _, ht, hv.stands.coordinator, hv.stands.gate, hp, hi⟩
  · intro hn hp hc
    obtain ⟨r, hr, he⟩ := h.refused hn hc hp
    exact ⟨r, hr, he _⟩
  · intro hn hp hc hr
    exact ⟨_, h.request_work hn hr hc hp _, Table.set_self m.world.issuer _ _⟩
  · intro hn hp hc hr
    obtain ⟨v, l', k', he, hv, hi⟩ := h.unanswered hn hr hc hp
    exact ⟨v, he _, by rw [hi, Table.set_self]⟩

/-- **The server is a counter and a switch**, whatever requests come in, in whatever order their handlers
answer, panic, wait, go on and are dropped, and whenever it is told to suspend and to resume. What its gate
counts is what has been let in and has not ended. It shows that it runs while it is open; from a suspend
until the next resume nothing behind the gate starts, and it shows that it suspends while something is in
flight, and that it is suspended from the move on that ends the last. An operator is always answered. -/
theorem server_exact {date : String} {env : ServerConfig.Environment} {s : Server}
    (hs : Server.start date env = .ok s) (moves : List Move) (hm : ∀ move ∈ moves, Serves move) :
    ∃ x k, Shown (traffic moves) x k (run s.machine moves) ∧
      ∀ q p, Answers (traffic moves) x (run s.machine moves) q p := by
  obtain ⟨hsignal, l, k, rs, ws, hstack, h⟩ := (at_start hs).run hm
  exact ⟨_, k, h.shown hstack, h.answers hsignal⟩

/-- A request comes in and waits. The server is told to suspend, to resume, and to suspend once more: the
request is in flight still, an operator who asks is told so, and a request that comes now is turned away. -/
theorem server_exact_outlives :
    let sent (method path : String) (n : Nat) : Move :=
      .call (.request site ⟨method, path⟩ ⟨Uuid.nth n⟩)
    let moves : List Move := [sent "GET" "/work/5" 2, .park ⟨0⟩, sent "POST" "/suspend" 3,
      sent "POST" "/resume" 4, sent "POST" "/suspend" 5]
    ∃ s x k, Server.start "now" (fun _ => none) = .ok s ∧ (∀ move ∈ moves, Serves move) ∧
      Shown (traffic moves) x k (run s.machine moves) ∧ x.outstanding = 1 ∧ k.published = .suspending ∧
      (∃ v since, ∃ r : Response, Json.whole Snapshot.read r.body.toList =
          .ok ⟨.suspending, 3, since, [⟨"http", .draining, 1⟩], ["http"]⟩ ∧
        step (run s.machine moves) (sent "GET" "/suspend-state" 6) =
          reply v (run s.machine moves).stack (.response r)) ∧
      ∃ r : Response, r.status = 503 ∧
        step (run s.machine moves) (sent "GET" "/work/1" 6) =
          reply (run s.machine moves).world (run s.machine moves).stack (.response r) := by
  intro sent moves
  have hstart : (Server.start "now" fun _ => none).isOk = true := by decide +kernel
  cases hs : Server.start "now" fun _ => none with
  | error e =>
    rw [hs] at hstart
    cases hstart
  | ok s =>
    have hserves : ∀ move ∈ moves, Serves move := by simp [moves, sent, Serves]
    obtain ⟨x, k, hx, ha⟩ := server_exact hs moves hserves
    have ht : traffic moves = { waiting := [⟨0⟩], closed := true, generation := 3, taken := [⟨Uuid.nth 2⟩] } := by
      decide +kernel
    have hnext : (traffic moves).next (sent "GET" "/suspend-state" 6) = traffic moves := by decide +kernel
    obtain ⟨r, hr, hrefused⟩ := (ha ⟨"GET", "/work/1"⟩ ⟨Uuid.nth 6⟩).refused (by decide +kernel)
      (by decide +kernel) (by decide +kernel)
    obtain ⟨v, answer, -, -, hanswer, htells, -⟩ :=
      (ha ⟨"GET", "/suspend-state"⟩ ⟨Uuid.nth 6⟩).operator .state (by decide +kernel)
    rw [if_pos (by decide), hnext, ht] at htells
    obtain ⟨since, -, hreports⟩ := htells
    refine ⟨s, x, k, rfl, hserves, hx, ?_, ?_, ⟨v, since, answer, ?_, hanswer⟩, r, hr.status, hrefused⟩
    · rw [hx.outstanding, ht]
      rfl
    · rw [hx.published, ht]
      rfl
    · have hfits : GateStatus.Fits ⟨"http", .draining, 1⟩ := ⟨by decide, by decide⟩
      have hgeneration : 3 < wordBound := by decide
      exact hreports.read rfl ⟨hgeneration, List.forall_mem_singleton.2 hfits⟩

end Runs

end Server

end Sluice
