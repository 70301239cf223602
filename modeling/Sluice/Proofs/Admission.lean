import Sluice.Proofs.Answers
import Sluice.Proofs.Drained
import Sluice.Proofs.Firing
import Sluice.Proofs.InFlight
import Sluice.Proofs.Stack

/-!
# A request takes one permit

A gate in front of an application asks for a permit before the handler of a request is entered, and has it back
before the answer, or the panic, goes on.

* `step_request_closed`, `step_request_lent`, `step_request_open`: what becomes of a request at once: it is
  turned away, or answered by the router, or code of the application is entered.
* `Machine.Leaves`: an operation is over, or will be when the code that it has entered is back.
* `Ends.settles`: **the move that ends a request gives its permit back**, and completes a drain that has waited
  for nothing else.
* `Machine.Accounted`: a request is under way and its permit in flight, or it is over and the permit has come
  back. `step_accounted`: **every move keeps this**.
* `admission_exact`: what becomes of a request, whatever its handler does.
-/

namespace Sluice

/-- What is behind the gate of an application: all that no operator asks for. -/
theorem Http.Site.route_app {site : Http.Site} {app : Http.App} {q : Http.Request} (ha : site.app = some app)
    (hs : site.service = none ∨ Http.Command.ofPath? q.path = none) :
    site.route q = .gated app.gate (app.router.land q) := by
  unfold Site.route
  rw [ha]
  rcases hs with hs | hs <;> rw [hs]
  cases site.service <;> rfl

/-- A router with one route, for what acts. All other paths it leads to code of the application. -/
def Http.Router.posting (paths : Http.Pattern) : Http.Router where
  land q :=
    if paths.covers q.path then
      if q.method ∈ Http.actMethods then {}
      else { own := some { status := 405 }, edit := { allow := Http.allowed Http.actMethods } }
    else {}
  headOnly q := by
    repeat' split
    all_goals exact nofun

/-- What has been let in and comes back at once leaves no trace. -/
theorem Gate.release?_letIn {x : Gate} {p : PermitId} (ho : x.state = .running) :
    (x.letIn p).release? p = some (x, none) := by
  obtain ⟨name, state, outstanding, permits, callback⟩ := x
  subst ho
  simp [release?, letIn]

/-- A permit has been taken and is back. -/
def World.lent (w : World) (g : GateId) (p : PermitId) : World :=
  { w with issuer := w.issuer.set p g, journal := .returned g p :: .issued g p :: w.journal }

/-- A suspend of the coordinator waits for a gate, and for no other. -/
def Coordinator.AwaitsOnly (k : Coordinator) (g : GateId) (callback : Option DrainCallback) : Prop :=
  k.Awaits g callback ∧ ∀ p f, k.pending = some p → p.waitsFor f = true → f = g

namespace Machine

open Http World

variable {m : Machine} {site : Site} {q : Request} {p : PermitId} {x : Gate} {app : App}

/-! ## What becomes of a request at once -/

section Request

variable (hab : m.signal ≠ .aborted) (ha : site.app = some app)
  (hs : site.service = none ∨ Command.ofPath? q.path = none) (hx : m.world.gates app.gate = some x)
  (hp : m.world.issuer p = none)

include hab ha hs hx hp

/-- **A closed gate turns a request away**, and nothing else happens at all. -/
theorem step_request_closed (hm : m.world.Sound) (hc : x.state ≠ .running) :
    step m (.call (.request site q p)) =
      ⟨m.world, m.stack, .replied (.response ((app.router.land q).edit.apply (refusal x.name)))⟩ := by
  have hclosed : x.isOpen = false := decide_eq_false hc
  have haway : m.world.turnAway app.gate x = (m.world, none) := turnAway_eq hx (hm.gates _ x hx)
  rw [step_call hab]
  simp only [perform, request, Site.route_app ha hs, behindGate, hx, hp, hclosed, Bool.false_eq_true, if_false,
    turnAway, haway]
  rfl

/-- **Where the router answers by itself**, a permit is taken and is back before the answer goes out, and nothing
else happens. -/
theorem step_request_lent {answer : Response} (ho : x.state = .running)
    (hq : (app.router.land q).own = some answer) :
    step m (.call (.request site q p)) =
      ⟨m.world.lent app.gate p, m.stack, .replied (.response ((app.router.land q).edit.apply answer))⟩ := by
  have hopen : x.isOpen = true := decide_eq_true ho
  have hset : (m.world.letIn app.gate x p).gates app.gate = some (x.letIn p) := Table.set_self _ _ _
  have hrelease : (x.letIn p).release? p = some (x, none) := Gate.release?_letIn ho
  have hgates : ((m.world.gates.set app.gate (x.letIn p)).set app.gate x) = m.world.gates := by
    rw [Table.set_set, Table.set_eq_self hx]
  have hback : ((m.world.letIn app.gate x p).setGate app.gate x).note (.returned app.gate p) =
      m.world.lent app.gate p := by
    simp only [World.letIn, World.setGate, World.note, World.lent, hgates]
  rw [step_call hab]
  simp only [perform, request, Site.route_app ha hs, behindGate, hx, hp, hopen, if_true, hq, respond, hset,
    World.release, hrelease, hback]
  rfl

/-- Gates and coordinators are then as they were. -/
theorem step_request_own {answer : Response} (ho : x.state = .running)
    (hq : (app.router.land q).own = some answer) :
    let m' := step m (.call (.request site q p))
    m'.stack = m.stack ∧ m'.signal = .replied (.response ((app.router.land q).edit.apply answer)) ∧
      m'.world.gates = m.world.gates ∧ m'.world.coordinators = m.world.coordinators ∧
      m'.world.journal = .returned app.gate p :: .issued app.gate p :: m.world.journal := by
  rw [step_request_lent hab ha hs hx hp ho hq]
  exact ⟨rfl, rfl, rfl, rfl, rfl⟩

/-- **Where it leads to code of the application**, this is entered with a permit. -/
theorem step_request_open (ho : x.state = .running) (hq : (app.router.land q).own = none) :
    step m (.call (.request site q p)) =
      ⟨m.world.letIn app.gate x p, .handler ⟨⟨p, app.gate⟩, (app.router.land q).edit, q.path⟩ :: m.stack,
        .entered⟩ := by
  have hopen : x.isOpen = true := decide_eq_true ho
  rw [step_call hab]
  simp only [perform, request, Site.route_app ha hs, behindGate, hx, hp, hopen, if_true, hq]

end Request

/-! ## The end of a request -/

/-- An operation goes on with what is left, or has entered code and will when that is back. -/
inductive Leaves (m : Machine) (s : List Activation) (after : After) : Prop
  | goesOn (w : World) (h : m = finish w s after)
  | entered (b : Activation) (hs : m.stack = b :: s) (he : m.signal = .entered) (hb : b.after? = some after)

theorem fire_leaves (w : World) (s : List Activation) (g : GateId) (callback : Option DrainCallback)
    (after : After) : (fire w s g callback after).Leaves s after := by
  rcases fire_cases w s g callback after with
    ⟨e, -⟩ | ⟨cb, -, ⟨code, -, e⟩ | ⟨c, n, k, -, -, -, e⟩ | ⟨c, n, -, -, e⟩⟩ <;> rw [e]
  · exact .goesOn w rfl
  · exact .entered _ rfl rfl rfl
  · rcases dispatch_blind ((w.note (.fired g cb)).drained c k n g) c with
      ⟨v, hv⟩ | ⟨v, d, h, l, others, hv⟩
    · exact .goesOn v (hv s after)
    · have he := hv s after
      simp only at he
      rw [he]
      exact .entered _ rfl rfl rfl
  · exact .goesOn _ rfl

variable {w : World} {s t : List Activation} {after : After} {c : CoordinatorId} {k : Coordinator} {g : GateId}
  {y z : Gate} {a : Admission} {move : Move} {callback : Option DrainCallback}

/-- **The report of the only gate that is waited for** completes the suspend. -/
theorem fire_suspends {n : Nat} (hk : w.coordinators c = some k)
    (h : k.AwaitsOnly g (some (.report c n))) (hafter : after.drain? = none) :
    ∃ k', (fire w s g (some (.report c n)) after).world.coordinators c = some k' ∧
      k'.state = .suspended ∧ k'.pending = none := by
  obtain ⟨⟨d, n', q, hcb, hq, hl, hn, hw⟩, honly⟩ := h
  cases hcb
  have hlast : (q.strike g).gates = [] := by
    refine List.filter_eq_nil_iff.2 fun f hf => ?_
    have hfg := honly q f.1 hq (Pending.waitsFor_iff.2 (List.mem_map_of_mem hf))
    simp [hfg]
  have hv : ((w.note (.fired g (.report c n))).drained c k n g).coordinators c =
      some (k.completed w.date) := by
    rcases drained_cases (w.note (.fired g (.report c n))) c k n g with ⟨e, -⟩ | ⟨-, hne⟩
    · rw [e, strike_coordinators, Coordinator.struck_of_waits _ _ _ hq hw, if_pos hlast]
      exact Table.set_self _ _ _
    · exact absurd hn (hne q hq)
  have he : fire w s g (some (.report c n)) after =
      dispatch ((w.note (.fired g (.report c n))).drained c k n g) s c after := by
    simp only [fire, note_coordinators, hk, hl, if_true]
  rw [he]
  -- the delivery of the hooks leaves what has been set
  obtain ⟨k', hk'⟩ := (dispatch_tends (e := none) (s := s) (c := c) (.inl hafter)).world.coordinators c _ hv
  obtain ⟨k₀, hk₀, halike⟩ := dispatch_alike.coordinators c k' hk'
  cases hv.symm.trans hk₀
  obtain ⟨_, _, _, _, rfl⟩ := halike
  exact ⟨_, hk', rfl, k.completed_pending w.date⟩

/-- A request has ended: its permit is back, its answer or its panic goes on, and a drain that has waited for
nothing else is complete, as is a suspend. -/
structure Settled (m m' : Machine) (p : Permit) (y : Gate) (t : List Activation) (after : After) : Prop where
  takenBack : TakenBack m m' p.gate y p.id
  leaves : m'.Leaves t after
  drained : y.state = .draining → y.outstanding = 1 →
    ∃ cb, Fires m.world.books m' p.gate y p.id cb ∧
      ∀ c n k, cb = .report c n → m.world.coordinators c = some k → k.AwaitsOnly p.gate (some cb) →
        ∃ k', m'.world.coordinators c = some k' ∧ k'.state = .suspended ∧ k'.pending = none

theorem Ends.step_eq (h : m.Ends a move t after) (hab : m.signal ≠ .aborted)
    (hy : m.world.gates a.permit.gate = some y) (hr : y.release? a.permit.id = some (z, callback)) :
    ∃ waiting, step m move =
      fire ((({ m.world with waiting } : World).setGate a.permit.gate z).note
        (.returned a.permit.gate a.permit.id)) t a.permit.gate callback after := by
  unfold step
  rw [if_neg hab]
  cases h with
  | answered hs => exact ⟨m.world.waiting, by simp only [hs, ret, respond, hy, World.release, hr]⟩
  | panicked hs =>
    exact ⟨m.world.waiting, by simp only [hs, panic, letGo, hy, World.drop, World.release, hr]⟩
  | @cancelled r hw =>
    exact ⟨m.world.waiting.erase r, by
      simp only [perform, cancelRequest, hw, letGo, hy, World.drop, World.release, hr]⟩

theorem Ends.drain_eq_none (h : m.Ends a move t after) : after.drain? = none := by cases h <;> rfl

/-- **The move that ends a request** gives its permit back. -/
theorem Ends.settles (hm : m.world.Sound) (h : m.Ends a move t after) (hab : m.signal ≠ .aborted)
    (hy : m.world.gates a.permit.gate = some y) (hp : a.permit.id ∈ y.permits) :
    Settled m (step m move) a.permit y t after := by
  have hys : y.Sound := hm.gates _ y hy
  obtain ⟨z, callback, hr⟩ := Gate.exists_release? hp
  obtain ⟨waiting, he⟩ := h.step_eq hab hy hr
  set v : World := { m.world with waiting }
  rw [he]
  refine ⟨fire_takenBack (w := v) rfl hys hr, fire_leaves _ _ _ _ _, fun hd h1 => ?_⟩
  -- a gate that drains hands its callback out with its last permit
  obtain ⟨cb, hcb⟩ := Option.ne_none_iff_exists'.1 (hys.draining hd).2
  have hcallback : callback = some cb := by
    obtain ⟨-, -, -, -, -, ⟨-, -, -, -, hc⟩ | ⟨hrun, -⟩⟩ := Gate.release?_cases hys hr
    · rw [hc, hcb]
    · rw [hrun h1] at hd
      cases hd
  subst hcallback
  refine ⟨cb, fire_fires (w := v) hy hys hr, fun c n k hrep hk honly => ?_⟩
  subst hrep
  exact fire_suspends hk honly h.drain_eq_none

/-! ## While a request is under way -/

/-- A request is under way and its permit is in flight, or it is over and the permit has come back. -/
def Accounted (m : Machine) (a : Admission) : Prop :=
  m.Carries a ∧ m.world.Holds a.permit.gate a.permit.id ∨
    m.Gone a.permit.id ∧ .returned a.permit.gate a.permit.id ∈ m.world.journal

/-- **A request takes its permit along** until it ends: no move takes one without the other. -/
theorem step_accounted (hm : m.world.Sound) (hi : m.world.issuer a.permit.id ≠ none) (h : m.Accounted a)
    (hop : ∀ op, move = .call op → op.permit? ≠ some a.permit.id) : (step m move).Accounted a := by
  by_cases hab : m.signal = .aborted
  · rwa [step_of_aborted hab]
  have hmoved := (step_shifts m move).moved a.permit.id
  rcases h with ⟨hc, hh⟩ | ⟨hgone, hback⟩
  · rcases hc.moved hi hmoved with hc' | ⟨hgone, t, after, he⟩
    · -- whoever ends has another permit, for this request is still there
      refine .inl ⟨hc', step_holds hh hi hop fun b t after he hb => ?_⟩
      have hba : b = a := hc.unique he.underWay hb
      subst hba
      exact (hc.gone (he.drops hab)).not_underWay hc'.underWay
    · obtain ⟨y, hy, hp⟩ := hh
      exact .inr ⟨hgone, (he.settles hm hab hy hp).takenBack.returned⟩
  · refine .inr ⟨hgone.moved (.inl hi) hmoved, mem_returned.1 ?_⟩
    exact (run_returned hm [move] _).subset (mem_returned.2 hback)

/-- A request takes its permit along, whatever is done with others. -/
theorem run_accounted (hm : m.world.Sound) (hi : m.world.issuer a.permit.id = some g) (h : m.Accounted a)
    {moves : List Move} (hop : ∀ op, .call op ∈ moves → op.permit? ≠ some a.permit.id) :
    (run m moves).Accounted a := by
  induction moves generalizing m with
  | nil => exact h
  | cons move moves ih =>
    have hm' : (step m move).world.Sound :=
      run_keep (P := fun a => a.1.Sound) (m := m) (fun _ _ _ _ hab => hab.sound) hm [move]
    have hhere : (step m move).Accounted a := by
      refine step_accounted hm (by rw [hi]; exact Option.some_ne_none g) h fun op ho => ?_
      exact hop op (ho ▸ List.mem_cons_self)
    exact ih hm' (run_issuer hm hi [move]) hhere fun op ho => hop op (List.mem_cons_of_mem _ ho)

theorem Accounted.count (h : m.Accounted a) (hb : m.world.books.Balanced)
    (hy : m.world.gates a.permit.gate = some y) :
    (m.UnderWay a → y.permits.count a.permit.id = 1 ∧ (m.world.returned a.permit.gate).count a.permit.id = 0) ∧
      (¬ m.UnderWay a →
        y.permits.count a.permit.id = 0 ∧ (m.world.returned a.permit.gate).count a.permit.id = 1) := by
  have hone := count_issued_le_one hb a.permit.gate a.permit.id
  have hsum := count_permits hb hy a.permit.id
  rw [count_returned]
  rcases h with ⟨hc, z, hz, hp⟩ | ⟨hgone, hback⟩
  · cases hy.symm.trans hz
    have hpos := List.count_pos_iff.2 hp
    exact ⟨fun _ => by omega, fun hn => absurd hc.underWay hn⟩
  · obtain ⟨hreturned, -⟩ := count_returned_le_one hb hback
    exact ⟨fun hw => absurd hw hgone.not_underWay, fun _ => by omega⟩

/-- Only what ends a request takes it away. -/
theorem Accounted.ended (h : m.Accounted a) (hi : m.world.issuer a.permit.id ≠ none) (hw : m.UnderWay a)
    (hover : ¬ (step m move).UnderWay a) : ∃ t after, m.Ends a move t after := by
  rcases h with ⟨hc, -⟩ | ⟨hgone, -⟩
  · rcases hc.moved hi ((step_shifts m move).moved a.permit.id) with hc' | ⟨-, he⟩
    · exact absurd hc'.underWay hover
    · exact he
  · exact absurd hw hgone.not_underWay

/-- What ends a request takes it away, and its permit back. -/
theorem Accounted.settles (h : m.Accounted a) (hm : m.world.Sound) (hab : m.signal ≠ .aborted)
    (he : m.Ends a move t after) :
    ¬ (step m move).UnderWay a ∧
      ∃ y, m.world.gates a.permit.gate = some y ∧ Settled m (step m move) a.permit y t after := by
  rcases h with ⟨hc, y, hy, hp⟩ | ⟨hgone, -⟩
  · exact ⟨(hc.gone (he.drops hab)).not_underWay, y, hy, he.settles hm hab hy hp⟩
  · exact absurd he.underWay hgone.not_underWay

/-- A request that is let in has its permit in flight. -/
theorem Gone.accounted (h : m.Gone a.permit.id) (x : Gate) :
    Accounted ⟨m.world.letIn a.permit.gate x a.permit.id, .handler a :: m.stack, .entered⟩ a :=
  .inl ⟨h.entered rfl rfl, x.letIn a.permit.id, Table.set_self _ _ _, List.mem_cons_self⟩

/-! ## Requests -/

/-- A permit that nobody has issued is not out. -/
theorem not_mem_permits (hb : m.world.books.Balanced) (hx : m.world.gates g = some x)
    (hp : m.world.issuer p = none) : p ∉ x.permits := by
  intro hmem
  have hpos := List.count_pos_iff.2 hmem
  have hsum := count_permits hb hx p
  have hentry : .issued g p ∈ m.world.journal := List.count_pos_iff.1 (by omega)
  cases hp.symm.trans (hb.issuer g p (List.mem_filter.2 ⟨hentry, rfl⟩))

/-- What a gate counts changes by what it has issued since, less what has come back. -/
theorem run_outstanding {before : List Move} (hm : run {} before = m) (moves : List Move)
    (hx : m.world.gates g = some x) :
    ∃ y taken given, (run m moves).world.gates g = some y ∧
      (run m moves).world.issued g = taken ++ m.world.issued g ∧
      (run m moves).world.returned g = given ++ m.world.returned g ∧
      y.outstanding = x.outstanding + taken.length - given.length := by
  have hms : m.world.Sound := hm ▸ run_sound before
  have hmb : m.world.books.Balanced := hm ▸ run_balanced before
  have hn : run {} (before ++ moves) = run m moves := by rw [run_append, hm]
  have hns : (run m moves).world.Sound := hn ▸ run_sound _
  have hnb : (run m moves).world.books.Balanced := hn ▸ run_balanced _
  obtain ⟨taken, htaken⟩ := run_issued hms moves g
  obtain ⟨given, hgiven⟩ := run_returned hms moves g
  obtain ⟨y, hy⟩ := Option.ne_none_iff_exists'.1
    (run_gate hms moves (g := g) (by rw [hx]; exact Option.some_ne_none x))
  refine ⟨y, taken, given, hy, htaken.symm, hgiven.symm, ?_⟩
  rw [outstanding_eq hnb hns hy, outstanding_eq hmb hms hx, ← htaken, ← hgiven, List.length_append,
    List.length_append]
  push_cast
  omega

/-- **A request takes one permit and gives it back**, whoever asks for what, whatever the router of the application
makes of it, and whatever its handler does.

* A closed gate turns the request away with 503, when to try again, and an error in JSON. No request goes without
  this text but a `HEAD`, and this only where the router takes the body off its answers. Nothing else happens at
  all.
* A gate that runs issues a permit. Where the router answers by itself, the permit is back with the answer, and
  gates and coordinators are as they were.
* Else code of the application is entered. Let any moves follow that are not handed the permit: the gate counts what
  it has counted before, the permit, and what has been issued since, less what has come back. The permit is out,
  once, while the request is under way, and has come back once when it is not. The request is under way until its
  handler answers or panics, or until it is dropped while it waits. Just then the permit comes back, before the
  answer or the panic goes on, and a drain that has waited for nothing else is complete. -/
theorem admission_exact (before : List Move) {site : Site} {app : App} {q : Request} {p : PermitId} {x : Gate}
    (hab : (run {} before).signal ≠ .aborted) (ha : site.app = some app)
    (hs : site.service = none ∨ Command.ofPath? q.path = none)
    (hx : (run {} before).world.gates app.gate = some x) (hp : (run {} before).world.issuer p = none) :
    let m := run {} before
    let m' := step m (.call (.request site q p))
    let g := app.gate
    let landing := app.router.land q
    let a : Admission := ⟨⟨p, g⟩, landing.edit, q.path⟩
    (x.state ≠ .running →
      ∃ r, m' = ⟨m.world, m.stack, .replied (.response r)⟩ ∧
        r.status = 503 ∧ r.retryAfter = some "5" ∧ r.contentType = some "application/json" ∧
        (q.method ≠ "HEAD" ∨ landing.edit.headOnly = false →
          Json.TellsError r.body ("Gate '" ++ x.name ++ "' is draining and not admitting new work")) ∧
        (landing.edit.headOnly = true → q.method = "HEAD" ∧ r.body = "")) ∧
    (x.state = .running → ∀ answer, landing.own = some answer →
      m'.stack = m.stack ∧ m'.signal = .replied (.response (landing.edit.apply answer)) ∧
        m'.world.gates = m.world.gates ∧ m'.world.coordinators = m.world.coordinators ∧
        m'.world.journal = .returned g p :: .issued g p :: m.world.journal) ∧
    (x.state = .running → landing.own = none →
      m' = ⟨m.world.letIn g x p, .handler a :: m.stack, .entered⟩ ∧ p ∉ x.permits ∧
      ∀ moves, (∀ op, .call op ∈ moves → op.permit? ≠ some p) →
        let n := run m' moves
        (∃ y taken given, n.world.gates g = some y ∧ n.world.issued g = taken ++ m'.world.issued g ∧
          n.world.returned g = given ++ m'.world.returned g ∧
          y.outstanding = x.outstanding + 1 + taken.length - given.length ∧
          (n.UnderWay a → y.permits.count p = 1 ∧ given.count p = 0) ∧
          (¬ n.UnderWay a → y.permits.count p = 0 ∧ given.count p = 1)) ∧
        (n.stack = m.stack → n.UnderWay a → ∃ r, n.world.waiting r = some a) ∧
        (∀ move, n.UnderWay a → ¬ (step n move).UnderWay a → ∃ t after, n.Ends a move t after) ∧
        ∀ move t after, n.Ends a move t after → n.signal ≠ .aborted →
          ¬ (step n move).UnderWay a ∧
            ∃ y, n.world.gates g = some y ∧ Settled n (step n move) ⟨p, g⟩ y t after) := by
  intro m m' g landing a
  have hm : m.world.Sound := run_sound before
  have hhead : landing.edit.headOnly = true → q.method = "HEAD" :=
    fun h => of_decide_eq_true (app.router.headOnly q h)
  refine ⟨fun hc => ?_, fun ho answer hq => step_request_own hab ha hs hx hp ho hq, fun ho hq => ?_⟩
  · obtain ⟨hstatus, hretry, htype, hbody, hnone⟩ := apply_refusal landing.edit x.name
    refine ⟨_, step_request_closed hab ha hs hx hp hm hc, hstatus, hretry, htype, fun hq => hbody ?_,
      fun h => ⟨hhead h, hnone h⟩⟩
    rcases hq with hq | hq
    · exact Bool.eq_false_of_not_eq_true fun h => hq (hhead h)
    · exact hq
  have hopen : m' = ⟨m.world.letIn g x p, .handler a :: m.stack, .entered⟩ :=
    step_request_open hab ha hs hx hp ho hq
  refine ⟨hopen, not_mem_permits (run_balanced before) hx hp, ?_⟩
  intro moves hop n
  -- `m'` and `n` are what runs come to
  have hm' : run {} (before ++ [.call (.request site q p)]) = m' := run_snoc _ _ _
  have hn : run {} (before ++ [.call (.request site q p)] ++ moves) = n := by rw [run_append, hm']
  have hms : m'.world.Sound := hm' ▸ run_sound _
  have hns : n.world.Sound := hn ▸ run_sound _
  have hg' : m'.world.gates g = some (x.letIn p) := by
    rw [hopen]
    exact Table.set_self _ _ _
  have hi' : m'.world.issuer p = some g := by
    rw [hopen]
    exact Table.set_self _ _ _
  have hgone : m.Gone p := run_gone before hp
  have hhere : m'.Accounted a := by
    rw [hopen]
    exact hgone.accounted x
  have hthere : n.Accounted a := run_accounted hms hi' hhere hop
  have hi : n.world.issuer p ≠ none := by
    rw [run_issuer hms hi' moves]
    exact Option.some_ne_none g
  refine ⟨?_, fun hstack hw => ?_, fun move hw hover => hthere.ended hi hw hover,
    fun move t after he hna => hthere.settles hns hna he⟩
  · obtain ⟨y, taken, given, hy, htaken, hgiven, hout⟩ := run_outstanding hm' moves hg'
    obtain ⟨hin, hout'⟩ := hthere.count (hn ▸ run_balanced _) hy
    have hentered : m'.UnderWay a := .inl (by rw [hopen]; exact List.mem_cons_self)
    have hnone := ((hhere.count (hm' ▸ run_balanced _) hg').1 hentered).2
    have hsince : (n.world.returned g).count p = given.count p := by
      rw [hgiven, List.count_append, hnone, Nat.add_zero]
    rw [hsince] at hin hout'
    exact ⟨y, taken, given, hy, htaken, hgiven, hout, hin, hout'⟩
  · -- no handler that has called this code has the permit
    refine hw.resolve_left fun hh => hgone.not_underWay (a := a) (.inl ?_)
    rwa [hstack] at hh

/-- A handler suspends the coordinator of the gate that it has come through. With its answer the gate is drained
and the suspend complete. The next requests are turned away, one with a method that there is no route for and one
that falls back. -/
theorem admission_exact_suspended :
    let c : CoordinatorId := ⟨0⟩
    let g : GateId := ⟨⟨0, by decide⟩⟩
    let p : PermitId := ⟨⟨1, by decide⟩⟩
    let app : App := ⟨g, .posting (.exactly "/jobs")⟩
    let site : Site := { app := some app }
    let before : List Move := [.call (.newCoordinator c), .call (.registerGate c g "http")]
    let m' := step (run {} before) (.call (.request site ⟨"POST", "/jobs"⟩ p))
    let n := run m' [.call (.suspend c)]
    let e := step n (.ret { status := 200 })
    (∃ y, n.world.gates g = some y ∧ y.state = .draining ∧ y.outstanding = 1 ∧ y.permits.count p = 1) ∧
      (∃ z, e.world.gates g = some z ∧ z.outstanding = 0 ∧ .returned g p ∈ e.world.journal) ∧
      (∃ k, e.world.coordinators c = some k ∧ k.state = .suspended) ∧
      ∀ q ∈ [(⟨"GET", "/jobs"⟩ : Request), ⟨"PUT", "/other"⟩],
        ∃ r, step e (.call (.request site q ⟨⟨2, by decide⟩⟩)) = ⟨e.world, e.stack, .replied (.response r)⟩ ∧
          r.status = 503 ∧ Json.TellsError r.body "Gate 'http' is draining and not admitting new work" := by
  intro c g p app site before m' n e
  let a : Admission := ⟨⟨p, g⟩, {}, "/jobs"⟩
  let k : Coordinator :=
    { state := .suspending, generation := 1, gates := [g], pending := some ⟨1, [(g, "http")]⟩,
      published := .suspending, version := 1 }
  let later : List Move := before ++
    [.call (.request site ⟨"POST", "/jobs"⟩ p), .call (.suspend c), .ret { status := 200 }]
  have hx : (run {} before).world.gates g = some { name := "http" } := by decide +kernel
  have hy : n.world.gates g = some
      { name := "http", state := .draining, outstanding := 1, permits := [p],
        callback := some (.report c 1) } := by decide +kernel
  have hk : n.world.coordinators c = some k := by decide +kernel
  have hz : e.world.gates g = some { name := "http", state := .drained } := by decide +kernel
  have hstack : n.stack = [.handler a] := by decide +kernel
  have hsignal : n.signal ≠ .aborted := by decide +kernel
  have ha : site.app = some app := rfl
  obtain ⟨-, -, hopen⟩ := admission_exact before (q := ⟨"POST", "/jobs"⟩) (p := p) (by decide +kernel) ha
    (.inl rfl) hx (by decide +kernel)
  obtain ⟨-, -, hall⟩ := hopen rfl (by decide +kernel)
  have hn := hall [.call (.suspend c)] fun op hop => by
    cases hop with
    | head => exact nofun
    | tail _ hop => cases hop
  have he : run {} later = e := rfl
  have haway (q : Request) (hq : q.method ≠ "HEAD") :
      ∃ r, step e (.call (.request site q ⟨⟨2, by decide⟩⟩)) = ⟨e.world, e.stack, .replied (.response r)⟩ ∧
        r.status = 503 ∧ Json.TellsError r.body "Gate 'http' is draining and not admitting new work" := by
    obtain ⟨hclosed, -⟩ := admission_exact later (q := q) (p := ⟨⟨2, by decide⟩⟩)
      (by decide +kernel) ha (.inl rfl) (by rw [he]; exact hz) (by decide +kernel)
    obtain ⟨r, hr, h503, -, -, htold, -⟩ := hclosed nofun
    rw [he] at hr
    exact ⟨r, hr, h503, htold (.inl hq)⟩
  -- from here on `n` is only what has been found out about it
  obtain ⟨⟨y, taken, given, hy', -, -, -, hin, -⟩, -, -, hend⟩ := hn
  change n.world.gates g = some y at hy'
  change n.UnderWay a → _ at hin
  obtain ⟨-, z, hz', hsettled⟩ := hend (.ret { status := 200 }) [] _ (.answered hstack) hsignal
  change n.world.gates g = some z at hz'
  change Settled n e ⟨p, g⟩ z [] _ at hsettled
  clear_value n
  cases hy.symm.trans hy'
  cases hy.symm.trans hz'
  obtain ⟨cb, hfires, hreports⟩ := hsettled.drained rfl rfl
  cases hfires.callback
  have honly : k.AwaitsOnly g (some (.report c 1)) := by
    refine ⟨⟨c, 1, _, rfl, rfl, rfl, rfl, by decide⟩, fun q f hq hf => ?_⟩
    cases hq
    simpa [Pending.waitsFor, eq_comm] using hf
  obtain ⟨k', hk', hsuspended, -⟩ := hreports c 1 k rfl hk honly
  have hunder : n.UnderWay a := .inl (by rw [hstack]; exact List.mem_singleton_self _)
  refine ⟨⟨_, hy, rfl, rfl, (hin hunder).1⟩, ⟨_, hz, rfl, hsettled.takenBack.returned⟩, ⟨k', hk', hsuspended⟩,
    fun q hq => haway q ?_⟩
  rcases List.mem_pair.1 hq with rfl | rfl <;> decide

/-- A `HEAD` that is turned away is not told in JSON why: its answer has no text. -/
theorem admission_beheaded :
    let g : GateId := ⟨⟨0, by decide⟩⟩
    let site : Site := { app := some ⟨g, .get (.exactly "/work")⟩ }
    let m := run {} [.call (.newGate g "http"), .call (.beginDrain g ⟨0⟩)]
    let m' := step m (.call (.request site ⟨"HEAD", "/work"⟩ ⟨⟨1, by decide⟩⟩))
    m.world.gates g = some { name := "http", state := .drained } ∧
      ∃ r, m'.signal = .replied (.response r) ∧ r.status = 503 ∧ r.body = "" ∧
        ∀ message, ¬ Json.TellsError r.body message := by
  refine ⟨by decide +kernel, { (refusal "http") with body := "" }, by decide +kernel, rfl, rfl, ?_⟩
  rintro message ⟨text, htext, -⟩
  have hlist := congrArg String.toList htext
  simp at hlist

end Machine

end Sluice
