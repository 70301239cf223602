import Sluice.Proofs.Admission
import Sluice.Proofs.Drain
import Sluice.Proofs.Shutdown

/-!
# Only three requests act

An operator acts by posting to one of three paths. Whatever else is asked for at the operator's routes, or behind
the gate of an application that is served beside them, changes nothing that an operator sees.

* `Http.Request.Acts`: the requests that act.
* `Spares`: coordinators, services, drains and histories are as they were, no gate has opened or closed, and no
  hook is entered. `Bypasses`, `step_request_bypasses`: **other requests spare all that**, and what becomes of
  them.
* `Relays`: a request does what an operation of a coordinator does, hooks and all, and is answered with what the
  coordinator then shows. `step_request_suspend`, `step_request_resume`, `step_request_shutdown`: what becomes
  of the requests that act.
* `operator_exact`: **what a request to the operator's routes does**, in any state.
-/

namespace Sluice

/-- The request is one of those that act, in method and path, letter for letter. -/
def Http.Request.Acts (q : Http.Request) : Prop :=
  q.method = "POST" ∧ (q.path = "/suspend" ∨ q.path = "/resume" ∨ q.path = "/shutdown")

instance (q : Http.Request) : Decidable q.Acts := instDecidableAnd

/-- A command that does more than look is asked for by a request that acts. -/
theorem Http.Site.acts_of_route {site : Http.Site} {q : Http.Request} {x : ServiceId} {o : Http.Command}
    (hr : site.route q = .command x o) (ho : o.isRead = false) : q.Acts := by
  obtain ⟨-, hpath, hmethod⟩ := Site.route_eq_command.1 hr
  cases o with
  | health | state => cases ho
  | suspend => exact ⟨List.mem_singleton.1 hmethod, .inl hpath⟩
  | resume => exact ⟨List.mem_singleton.1 hmethod, .inr (.inl hpath)⟩
  | shutdown => exact ⟨List.mem_singleton.1 hmethod, .inr (.inr hpath)⟩

namespace Machine

open Http World

/-- A request has changed no coordinator, no service, no drain and no history, has opened or closed no gate, and
has entered no hook: at most the handler of an application. -/
structure Spares (m m' : Machine) : Prop where
  coordinators : m'.world.coordinators = m.world.coordinators
  services : m'.world.services = m.world.services
  drains : m'.world.drains = m.world.drains
  history : ∀ c, m'.world.history c = m.world.history c
  gates : ∀ g, (m'.world.gates g).map Gate.state = (m.world.gates g).map Gate.state
  stack : m'.stack = m.stack ∨ ∃ a, m'.stack = .handler a :: m.stack

/-- What becomes of a request that does not act. At an operator's path, or where no application is served, it is
only answered. Else the gate of the application decides, and then its router. -/
structure Bypasses (m m' : Machine) (site : Site) (q : Request) (p : PermitId) : Prop where
  spares : Spares m m'
  answered : site.app = none ∨ Command.ofPath? q.path ≠ none →
    ∃ r, m' = ⟨m.world, m.stack, .replied (.response r)⟩
  /-- A closed gate turns the request away, also that of a coordinator which is being suspended. -/
  refused : ∀ app z, site.app = some app → Command.ofPath? q.path = none →
    m.world.gates app.gate = some z → z.state ≠ .running →
      ∃ r, m' = ⟨m.world, m.stack, .replied (.response r)⟩ ∧ r.status = 503
  /-- Where the router of the application answers by itself, a permit is taken and is back. -/
  lent : ∀ app z, site.app = some app → Command.ofPath? q.path = none →
    m.world.gates app.gate = some z → z.state = .running → ∀ answer, (app.router.land q).own = some answer →
      m' = ⟨m.world.lent app.gate p, m.stack, .replied (.response ((app.router.land q).edit.apply answer))⟩
  /-- Else a permit is taken and code of the application entered. -/
  entered : ∀ app z, site.app = some app → Command.ofPath? q.path = none →
    m.world.gates app.gate = some z → z.state = .running → (app.router.land q).own = none →
      m' = ⟨m.world.letIn app.gate z p,
        .handler ⟨⟨p, app.gate⟩, (app.router.land q).edit, q.path⟩ :: m.stack, .entered⟩

/-- A request does what an operation of a coordinator does. While that has entered hooks, whatever these do, the
two differ in nothing but in what comes then. When it is back, the request is answered with what the coordinator
shows in the world that it has left. -/
structure Relays (m asked done : Machine) (c : CoordinatorId) (status : Nat) : Prop where
  meanwhile : ∀ inner, Above m.stack done inner → (run done inner).stack ≠ m.stack →
    (run asked inner).world = (run done inner).world ∧ (run asked inner).signal = (run done inner).signal ∧
      (run asked inner).stack.map Activation.code = (run done inner).stack.map Activation.code
  answered : ∀ inner, Above m.stack done inner → (run done inner).stack = m.stack →
    ∃ w k, w.coordinators c = some k ∧ run done inner = ⟨w, m.stack, .replied .done⟩ ∧
      run asked inner = ⟨w, m.stack, .replied (.response (shown status (w.snapshot k)))⟩

variable {m : Machine} {site : Site} {q : Request} {p : PermitId} {x : ServiceId} {c : CoordinatorId}
  {k : Coordinator} {app : App} {z : Gate}

/-! ## Requests that do not act -/

theorem spares_replied (m : Machine) (r : Reply) : Spares m ⟨m.world, m.stack, .replied r⟩ :=
  ⟨rfl, rfl, rfl, fun _ => rfl, fun _ => rfl, .inl rfl⟩

theorem spares_lent (m : Machine) (g : GateId) (p : PermitId) (r : Reply) :
    Spares m ⟨m.world.lent g p, m.stack, .replied r⟩ :=
  ⟨rfl, rfl, rfl, fun _ => rfl, fun _ => rfl, .inl rfl⟩

/-- A permit that has been taken opens and closes no gate. -/
theorem spares_entered {g : GateId} (hz : m.world.gates g = some z) (a : Admission) (p : PermitId) :
    Spares m ⟨m.world.letIn g z p, .handler a :: m.stack, .entered⟩ := by
  refine ⟨rfl, rfl, rfl, fun _ => rfl, fun f => ?_, .inr ⟨a, rfl⟩⟩
  change ((m.world.gates.set g (z.letIn p)) f).map Gate.state = _
  by_cases hf : f = g
  · subst hf
    rw [Table.set_self, hz]
    rfl
  · rw [Table.set_of_ne _ _ hf]

/-! ## Two ways to go on -/

/-- An operation that goes on in two ways is relayed by the one that answers. -/
theorem relays_of_blind (hk : m.world.coordinatorOf x = some (c, k)) {f : List Activation → After → Machine}
    {move : Move} {asked done : Machine} {status : Nat} (hf : Blind f) (hasked : asked = f m.stack (.respond status c))
    (hdone : done = f m.stack (.reply .done)) (hmove : done = step m move) : Relays m asked done c status := by
  have htandem : Tandem m.stack (.respond status c) (.reply .done) asked done := by
    rw [hasked, hdone]
    exact tandem_of_blind hf
  refine ⟨fun inner habove hout => ?_, fun inner habove hback => ?_⟩
  · rcases (htandem.run habove).outcome with ⟨-, hw, hsignal, hcode⟩ | ⟨w, -, hd⟩
    · exact ⟨hw, hsignal, hcode⟩
    · exact absurd (by rw [hd]; rfl) hout
  · rcases (htandem.run habove).outcome with ⟨hout, -⟩ | ⟨w, ha, hd⟩
    · exact absurd hback hout
    · -- the coordinator is still there to be shown
      have hd' : run done inner = ⟨w, m.stack, .replied .done⟩ := hd
      obtain ⟨k', hk'⟩ : ∃ k', (run done inner).world.coordinatorOf x = some (c, k') := by
        rw [hmove]
        exact run_coordinatorOf hk (move :: inner)
      rw [hd'] at hk'
      have hkw : w.coordinators c = some k' := (coordinatorOf_eq_some hk').2
      refine ⟨w, k', hkw, hd', ?_⟩
      rw [ha]
      simp only [finish, hkw]
      rfl

section Request

variable (hab : m.signal ≠ .aborted) (hs : site.service = some x)

include hab hs

/-- What an operator asks for is performed. -/
theorem step_request_command {o : Command} (hm : q.method ∈ o.methods) (hpath : q.path = o.path) :
    step m (.call (.request site q p)) = command m.world m.stack x o q.isHead := by
  have hroute : site.route q = .command x o := Site.route_eq_command.2 ⟨hs, hpath, hm⟩
  rw [step_call hab]
  simp only [perform, request, hroute]

variable (hk : m.world.coordinatorOf x = some (c, k))

include hk

/-- **At an operator's path a request that does not act** is answered, as is one that nobody answers where there
is no application. Nothing else happens. -/
theorem step_request_answered (hq : ¬ q.Acts) (happ : site.app = none ∨ Command.ofPath? q.path ≠ none) :
    ∃ r, step m (.call (.request site q p)) = ⟨m.world, m.stack, .replied (.response r)⟩ := by
  have hnobody {r : Response} (hroute : site.route q = .own r) :
      step m (.call (.request site q p)) = ⟨m.world, m.stack, .replied (.response r)⟩ := by
    rw [step_call hab]
    simp only [perform, request, hroute]
    rfl
  cases ho : Command.ofPath? q.path with
  | none =>
    have hroute : site.route q = .own { status := 404 } := by
      unfold Site.route
      rw [hs, ho, happ.resolve_right (absurd ho)]
    exact ⟨_, hnobody hroute⟩
  | some o =>
    have hpath := Command.ofPath?_eq_some.1 ho
    by_cases hmethod : q.method ∈ o.methods
    · rw [step_request_command hab hs hmethod hpath]
      unfold command
      rw [hk]
      cases o with
      | health | state => exact ⟨_, rfl⟩
      | suspend | resume | shutdown =>
        exact absurd (Site.acts_of_route (Site.route_eq_command.2 ⟨hs, hpath, hmethod⟩) rfl) hq
    · have hroute : site.route q = .own { status := 405, allow := allowed o.methods } := by
        unfold Site.route
        rw [hs, ho]
        exact if_neg hmethod
      exact ⟨_, hnobody hroute⟩

/-- **A request that does not act** spares all that an operator sees. -/
theorem step_request_bypasses (hm : m.world.Sound) (hq : ¬ q.Acts)
    (happ : ∀ app, site.app = some app →
      m.world.issuer p = none ∧ ∃ z, m.world.gates app.gate = some z) :
    Bypasses m (step m (.call (.request site q p))) site q p := by
  have hanswered := step_request_answered (p := p) hab hs hk hq
  have hrefused (app : App) (z : Gate) (ha : site.app = some app) (hn : Command.ofPath? q.path = none)
      (hz : m.world.gates app.gate = some z) (hc : z.state ≠ .running) :
      ∃ r, step m (.call (.request site q p)) = ⟨m.world, m.stack, .replied (.response r)⟩ ∧
        r.status = 503 := by
    obtain ⟨h503, -⟩ := apply_refusal (app.router.land q).edit z.name
    exact ⟨_, step_request_closed hab ha (.inr hn) hz (happ app ha).1 hm hc, h503⟩
  refine ⟨?_, hanswered, hrefused,
    fun app z ha hn hz ho answer => step_request_lent hab ha (.inr hn) hz (happ app ha).1 ho,
    fun app z ha hn hz => step_request_open hab ha (.inr hn) hz (happ app ha).1⟩
  by_cases h : site.app = none ∨ Command.ofPath? q.path ≠ none
  · obtain ⟨r, hr⟩ := hanswered h
    rw [hr]
    exact spares_replied m _
  -- the request has come to the gate of the application
  obtain ⟨hne, hn⟩ := not_or.1 h
  obtain ⟨app, ha⟩ := Option.ne_none_iff_exists'.1 hne
  obtain ⟨hp, z, hz⟩ := happ app ha
  have hn : Command.ofPath? q.path = none := not_not.1 hn
  by_cases ho : z.state = .running
  · cases hown : (app.router.land q).own with
    | none =>
      rw [step_request_open hab ha (.inr hn) hz hp ho hown]
      exact spares_entered hz _ _
    | some answer =>
      rw [step_request_lent hab ha (.inr hn) hz hp ho hown]
      exact spares_lent m _ _ _
  · obtain ⟨r, hr, -⟩ := hrefused app z ha hn hz ho
    rw [hr]
    exact spares_replied m _

/-! ## Requests that act -/

/-- **Who posts to `/suspend`** suspends the coordinator, and sees it after that. -/
theorem step_request_suspend :
    Relays m (step m (.call (.request site ⟨"POST", "/suspend"⟩ p))) (step m (.call (.suspend c))) c 202 := by
  obtain ⟨hx, hkc⟩ := coordinatorOf_eq_some hk
  refine relays_of_blind hk (suspend_blind hkc) ?_ (step_call hab _) rfl
  rw [step_request_command hab hs (o := .suspend) (List.mem_singleton_self _) rfl]
  exact (command_eq hx hkc _).1

/-- **Who posts to `/resume`** resumes the coordinator, and sees it after that. -/
theorem step_request_resume :
    Relays m (step m (.call (.request site ⟨"POST", "/resume"⟩ p))) (step m (.call (.resume c))) c 200 := by
  obtain ⟨hx, hkc⟩ := coordinatorOf_eq_some hk
  refine relays_of_blind hk (resume_blind hkc) ?_ (step_call hab _) rfl
  rw [step_request_command hab hs (o := .resume) (List.mem_singleton_self _) rfl]
  exact (command_eq hx hkc _).2

/-- **Who posts to `/shutdown`** asks the service to shut down, and does nothing else. -/
theorem step_request_shutdown :
    ∃ v, m.world.services x = some v ∧
      step m (.call (.request site ⟨"POST", "/shutdown"⟩ p)) =
        ⟨m.world.setService x { v with shutdown := true, version := v.version + 1 }, m.stack,
          .replied (.response stopping)⟩ := by
  obtain ⟨hx, -⟩ := coordinatorOf_eq_some hk
  obtain ⟨v, hv, -⟩ := Option.map_eq_some_iff.1 hx
  refine ⟨v, hv, ?_⟩
  rw [step_request_command hab hs (o := .shutdown) (List.mem_singleton_self _) rfl]
  simp only [command, hk, shutdown_asked hv]

end Request

/-! ## Requests -/

/-- **Only three requests act.** Let an operator's routes be served for a service, with an application behind a
gate beside them or without one, and let any request come in, at the end of any run.

* A post to exactly `/suspend` or `/resume` does what a suspend or a resume of the coordinator does, from its
  first step to its last, whatever the hooks do that it enters; and is then answered.
* A post to exactly `/shutdown` asks the service to shut down, and does nothing else.
* Any other request spares coordinators with their hooks, the gates' states and all services. At an operator's
  path, or without an application, it is only answered. Else the gate decides: a closed one, also one of a
  coordinator that is being suspended, turns the request away and nothing changes at all; an open one lends a
  permit until the answer, and with that nothing else changes; or the application's handler is entered, with a
  permit and nothing else.
* No move but two changes whether a service has been asked to shut down: its user's call and the post to
  `/shutdown`. What has been asked stays so, whatever is done. -/
theorem operator_exact (before : List Move) {site : Site} {x : ServiceId} {c : CoordinatorId} {k : Coordinator}
    (q : Request) (p : PermitId) (hab : (run {} before).signal ≠ .aborted) (hs : site.service = some x)
    (hk : (run {} before).world.coordinatorOf x = some (c, k))
    (happ : ∀ app, site.app = some app →
      (run {} before).world.issuer p = none ∧ ∃ z, (run {} before).world.gates app.gate = some z) :
    let m := run {} before
    let m' := step m (.call (.request site q p))
    (q = ⟨"POST", "/suspend"⟩ → Relays m m' (step m (.call (.suspend c))) c 202) ∧
    (q = ⟨"POST", "/resume"⟩ → Relays m m' (step m (.call (.resume c))) c 200) ∧
    (q = ⟨"POST", "/shutdown"⟩ →
      ∃ v, m.world.services x = some v ∧
        m' = ⟨m.world.setService x { v with shutdown := true, version := v.version + 1 }, m.stack,
          .replied (.response stopping)⟩) ∧
    (¬ q.Acts → Bypasses m m' site q p) ∧
    ∀ y v, m.world.services y = some v →
      (∀ move : Move, ¬ move.AsksShutdown y →
        ∃ v', (step m move).world.services y = some v' ∧ v'.shutdown = v.shutdown) ∧
      (v.shutdown = true → ∀ moves,
        ∃ v', (run m moves).world.services y = some v' ∧ v'.shutdown = true) := by
  intro m m'
  refine ⟨?_, ?_, ?_, fun hq => step_request_bypasses hab hs hk (run_sound before) hq happ,
    fun y v hv => ⟨fun move hmove => step_keepsShutdown m hmove v hv,
      fun hasked moves => run_shutdown hv hasked moves⟩⟩
  · rintro rfl
    exact step_request_suspend hab hs hk
  · rintro rfl
    exact step_request_resume hab hs hk
  · rintro rfl
    exact step_request_shutdown hab hs hk

/-- A coordinator with a listener is being suspended and waits for its gate, and its service has been asked to shut
down. What nobody answers is turned away and changes nothing, a post to `/resume` does what a resume does, hook
and all, and nothing takes the shutdown back. -/
theorem operator_exact_suspending :
    let c : CoordinatorId := ⟨0⟩
    let g : GateId := ⟨⟨0, by decide⟩⟩
    let x : ServiceId := ⟨0⟩
    let p : PermitId := ⟨⟨2, by decide⟩⟩
    let site : Site := { service := some x, app := some ⟨g, .get (.exactly "/work")⟩ }
    let post (path : String) : Move := .call (.request site ⟨"POST", path⟩ p)
    let back : Move := .ret { status := 200 }
    let before : List Move := [.call (.newCoordinator c), .call (.registerGate c g "http"),
      .call (.addListener c ⟨⟨0⟩, "l"⟩ fun _ => .accept), .call (.newService x c),
      .call (.acquire g ⟨⟨1, by decide⟩⟩), post "/suspend", back, post "/shutdown"]
    let m := run {} before
    (∃ k, m.world.coordinators c = some k ∧ k.state = .suspending) ∧
      (∃ r, step m (.call (.request site ⟨"GET", "/nothing"⟩ p)) =
          ⟨m.world, m.stack, .replied (.response r)⟩ ∧ r.status = 503) ∧
      (∃ w k, run m [.call (.resume c), back] = ⟨w, m.stack, .replied .done⟩ ∧ k.state = .running ∧
        run m [post "/resume", back] = ⟨w, m.stack, .replied (.response (shown 200 (w.snapshot k)))⟩) ∧
      ∀ moves, ∃ v, (run m moves).world.services x = some v ∧ v.shutdown = true := by
  intro c g x p site post back before m
  let l : Listener := ⟨⟨0⟩, "l"⟩
  let k : Coordinator :=
    { state := .suspending, generation := 1, gates := [g], listeners := [l], pending := some ⟨1, [(g, "http")]⟩,
      published := .suspending, version := 1, handles := 2 }
  have hab : (run {} before).signal ≠ .aborted := by decide +kernel
  have hs : site.service = some x := rfl
  have hk : (run {} before).world.coordinatorOf x = some (c, k) := by decide +kernel
  have hz : (run {} before).world.gates g =
      some { name := "http", state := .draining, outstanding := 1, permits := [⟨⟨1, by decide⟩⟩],
             callback := some (.report c 1) } := by decide +kernel
  have hp : (run {} before).world.issuer p = none := by decide +kernel
  have hv : (run {} before).world.services x = some { coordinator := c, shutdown := true, version := 1 } := by
    decide +kernel
  have hhook : (step (run {} before) (.call (.resume c))).stack =
      .hook c .resumed l [] (.reply .done) :: [] ++ (run {} before).stack := by decide +kernel
  have hback : (run (run {} before) [.call (.resume c), back]).stack = (run {} before).stack := by decide +kernel
  have hrunning : ((run (run {} before) [.call (.resume c), back]).world.coordinators c).map Coordinator.state =
      some .running := by decide +kernel
  have happ (app : App) (ha : site.app = some app) :
      (run {} before).world.issuer p = none ∧ ∃ z, (run {} before).world.gates app.gate = some z := by
    have hg : app.gate = g := by rw [← Option.some.inj ha]
    rw [hg]
    exact ⟨hp, _, hz⟩
  have hall (q : Request) := operator_exact before q p hab hs hk happ
  -- from here on `m` is only what has been found out about it
  have hm : run {} before = m := rfl
  simp only [hm] at hall
  rw [hm] at hk hz hv hhook hback hrunning
  clear_value m
  refine ⟨⟨k, (coordinatorOf_eq_some hk).2, rfl⟩, ?_, ?_, fun moves => ?_⟩
  · obtain ⟨-, -, -, hother, -⟩ := hall ⟨"GET", "/nothing"⟩
    exact (hother (by decide)).refused _ _ rfl (by decide) hz nofun
  · obtain ⟨-, hresume, -⟩ := hall ⟨"POST", "/resume"⟩
    have habove : Above m.stack (step m (.call (.resume c))) [back] := ⟨⟨_, _, hhook⟩, trivial⟩
    obtain ⟨w, k', hk', hdone, hasked⟩ := (hresume rfl).answered [back] habove hback
    refine ⟨w, k', hdone, ?_, hasked⟩
    rw [show run m [.call (.resume c), back] = _ from hdone, hk'] at hrunning
    exact Option.some.inj hrunning
  · obtain ⟨-, -, -, -, hflags⟩ := hall ⟨"GET", "/nothing"⟩
    exact (hflags x _ hv).2 rfl moves

end Machine

end Sluice
