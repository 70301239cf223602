import Sluice.Proofs.Generation
import Sluice.Proofs.Returns
import Sluice.Proofs.Suspend

/-!
# The state of a gate agrees with its count

Count, state and callback of a gate are changed by whoever asks for work, gives it back, closes the gate or
opens it, and callers' code runs in between. At each point where such code runs or an operation has come
back they agree.

* `Gate.Passes`: what can happen to a gate at once, but that it is opened. `Change.gate_passes`: **a change
  does nothing else to a gate, unless the move opens it**.
* `Move.Opens`: the moves that open a gate. `step_keeps_gate`, `run_keeps_gate`: what other moves keep.
* `step_turnsAway`: who asks a closed gate for work leaves no trace.
* `gate_consistent`: what holds of every gate, and how a gate that drains comes to be drained and stays so.
-/

namespace Sluice

namespace Gate

/-- What can happen to a gate at once, but that it is opened. -/
inductive Passes (x : Gate) : Gate → Prop
  | same : Passes x x
  | letIn {p} (ho : x.isOpen = true) : Passes x (x.letIn p)
  | returned {p y callback} (hr : x.release? p = some (y, callback)) : Passes x y
  | closed {callback} : Passes x (x.beginDrain callback)

variable {x y : Gate}

theorem Passes.sound (h : x.Passes y) (hx : x.Sound) : y.Sound := by
  cases h with
  | same => exact hx
  | letIn ho => exact hx.letIn ho
  | returned hr => exact hx.release hr
  | closed => exact hx.beginDrain _

/-- A gate that is not opened stays closed. -/
theorem Passes.closed_of_closed (h : x.Passes y) (hx : x.Sound) (hs : x.state ≠ .running) :
    y.state ≠ .running := by
  cases h with
  | same => exact hs
  | letIn ho => exact absurd (of_decide_eq_true ho) hs
  | returned hr =>
    obtain ⟨-, -, -, -, -, ⟨-, -, hy, -⟩ | ⟨-, hy, -⟩⟩ := release?_cases hx hr <;> rw [hy]
    · decide
    · exact hs
  | closed => exact beginDrain_closed x _

/-- A drained gate that is not opened stays drained: it has nothing to give back, and to close it again
drains it at once. -/
theorem Passes.drained_of_drained (h : x.Passes y) (hx : x.Sound) (hs : x.state = .drained) :
    y.state = .drained := by
  have hidle : x.outstanding = 0 := (hx.drained hs).1
  have hclosed : x.state ≠ .running := by rw [hs]; decide
  refine (h.sound hx).drained_of_idle (h.closed_of_closed hx hclosed) ?_
  cases h with
  | same => exact hidle
  | letIn ho => exact absurd (of_decide_eq_true ho) hclosed
  | returned hr =>
    have hpos := (release?_cases hx hr).1
    omega
  | closed => rw [beginDrain_outstanding, hidle]

end Gate

/-- The gate behind which a request is answered. -/
def Http.Route.gate? : Http.Route → Option GateId
  | .gated g _ => some g
  | _ => none

/-- The gate that an operation asks to let work in. -/
def Op.asks? : Op → Option GateId
  | .acquire g _ => some g
  | .request site q _ => (site.route q).gate?
  | _ => none

namespace Machine

open World

/-- The move is a call that opens this gate, itself or with all gates of a coordinator. -/
def Move.Opens (w : World) (move : Move) (g : GateId) : Prop :=
  move = .call (.reopen g) ∨
    ∃ c k, move.Resumes w c ∧ w.coordinators c = some k ∧ g ∈ k.gates

variable {w₀ w : World} {m : Machine} {move : Move} {s : List Activation} {g : GateId} {x y : Gate}
  {op : Op}

/-- A move that opens no gate, and resumes no coordinator. -/
theorem not_opens (ho : move ≠ .call (.reopen g)) (hr : ∀ op, move = .call op → op.resumes = false) :
    ¬ move.Opens w g := by
  rintro (h | ⟨c, k, ⟨op, h, -, hres⟩, -, -⟩)
  · exact ho h
  · rw [hr op h] at hres
    cases hres

/-! ## What happens to one gate -/

/-- Another gate has changed, or this one in a way that it can. -/
theorem passes_set {f : GateId} {z : Gate} {t t' : Table GateId Gate} (hx : t g = some x)
    (ht : t' = t.set f z) (hz : f = g → x.Passes z) : ∃ y, t' g = some y ∧ x.Passes y := by
  rw [ht]
  by_cases hf : g = f
  · subst hf
    exact ⟨z, Table.set_self _ _ _, hz rfl⟩
  · exact ⟨x, (Table.set_of_ne _ _ hf).trans hx, .same⟩

/-- A gate is registered with a coordinator, which may close it. -/
theorem passes_addGate {f : GateId} {z : Gate} {c : CoordinatorId} {k : Coordinator}
    (hx : w.gates g = some x) (hz : w.gates f = some z) :
    ∃ y, (w.addGate c k f z).gates g = some y ∧ x.Passes y := by
  by_cases hf : f ∈ k.gates
  · rw [addGate_of_mem hf]
    exact ⟨x, hx, .same⟩
  obtain ⟨y, hy, hyz⟩ := addGate_gates_eq (c := c) hz hf
  refine passes_set hx hy fun hfg => ?_
  subst hfg
  cases hx.symm.trans hz
  rcases hyz with rfl | rfl
  · exact .same
  · exact .closed

/-- **Nothing else happens to a gate**, unless the move opens it or resumes a coordinator. -/
theorem Change.gate_passes {a b : Scene} (hab : Change w₀ move a b) (h : a.1.Sound)
    (ho : move ≠ .call (.reopen g)) (hres : ∀ c, ¬ move.Resumes w₀ c) (hx : a.1.gates g = some x) :
    ∃ y, b.1.gates g = some y ∧ x.Passes y := by
  -- what is left of an operation, and a delivery, change no gate
  have hsame {v : World} (hv : v.gates = a.1.gates) : ∃ y, v.gates g = some y ∧ x.Passes y :=
    ⟨x, by rw [hv, hx], .same⟩
  cases hab with
  | @gateMade w s f name _ hf =>
    refine passes_set hx rfl fun hfg => ?_
    rw [hfg, hx] at hf
    cases hf
  | letIn hf hop _ =>
    refine passes_set hx rfl fun hfg => ?_
    subst hfg
    cases hx.symm.trans hf
    exact .letIn hop
  | turnedAway hf _ =>
    rw [turnAway_eq hf (h.gates _ _ hf)]
    exact hsame (finish_rests _ _ _).gates
  | @returned w s f z p z' callback after hf hr =>
    have hb : (fire ((w.setGate f z').note (.returned f p)) s f callback after).world.gates =
        w.gates.set f z' := congrArg Books.gates (fire_books _ s f callback after)
    refine passes_set hx hb fun hfg => ?_
    subst hfg
    cases hx.symm.trans hf
    exact .returned hr
  | closed _ hf =>
    refine passes_set hx rfl fun hfg => ?_
    subst hfg
    cases hx.symm.trans hf
    exact .closed
  | reopened hm _ =>
    refine passes_set hx rfl fun hfg => ?_
    subst hfg
    exact absurd hm ho
  | @suspended w s c k after hk _ _ _ =>
    have hg : (dispatch (w.suspend c k) s c after).world.gates g =
        if g ∈ k.gates then (w.gates g).map (·.beginDrain (.report c (k.generation + 1)))
        else w.gates g := (congrFun dispatch_alike.gates g).trans (suspend_gates w c k g)
    rw [show w.gates g = some x from hx] at hg
    split at hg
    · exact ⟨_, hg, .closed⟩
    · exact ⟨x, hg, .same⟩
  | resumed hm _ _ _ => exact absurd hm (hres _)
  | gateAdded _ _ hf _ _ => exact passes_addGate hx hf
  | @gateRegistered w s c k f name _ _ hf _ =>
    -- the gate that is made is another
    have hfg : g ≠ f := fun hfg => by
      rw [← hfg] at hf
      cases hf.symm.trans hx
    exact passes_addGate (w := w.setGate f { name }) ((Table.set_of_ne _ _ hfg).trans hx)
      (Table.set_self _ _ _)
  | gateRemoved => exact hsame (dispatch_alike.gates.trans (strike_gates _ _ _ _))
  | hookLeft => exact hsame nextHook_alike.gates
  | finished => exact hsame (finish_rests _ _ _).gates
  | aside hg _ _ _ => exact hsame hg
  | coordinatorMade _ | subscribed _ | declined | unsubscribed _ | shared _ _ | dropped _
  | callbackLeft | handlerEntered | handlerLeft | alerted => exact hsame rfl

/-- A call that resumes a coordinator leaves the gates of others alone. -/
theorem perform_gates_of_resumes {c : CoordinatorId} (ho : op.resumes = true)
    (hc : op.coordinator? w = some c) (hg : ∀ k, w.coordinators c = some k → g ∉ k.gates) :
    (perform w s op).world.gates g = w.gates g := by
  cases hk : w.coordinators c with
  | none =>
    -- there is nothing to resume
    cases op with
    | resume d =>
      cases hc
      simp only [perform, resume, hk, reply]
    | resumeService z =>
      obtain ⟨y, hy, rfl⟩ := Option.map_eq_some_iff.1 hc
      simp [perform, resumeService, coordinatorOf, hy, hk, reply]
    | request site q p =>
      simp only [Op.resumes] at ho
      split at ho
      · rename_i z hr
        simp only [Op.coordinator?, hr] at hc
        obtain ⟨y, hy, rfl⟩ := Option.map_eq_some_iff.1 hc
        simp [perform, request, hr, command, coordinatorOf, hy, hk, reply]
      · cases ho
    | _ => cases ho
  | some k =>
    obtain ⟨after, e⟩ := perform_of_resumes (s := s) ho hc hk
    rw [e]
    simp only [resume, hk]
    split
    · rw [(finish_rests w s after).gates]
    · rw [dispatch_alike.gates, resume_gates, if_neg (hg k hk)]

/-! ## What moves keep -/

section Keeps

variable {Q : Gate → Prop} (hQ : ∀ x y, x.Sound → Q x → x.Passes y → Q y)
include hQ

/-- **A move that does not open a gate** keeps what is kept by all that else can happen to the gate. -/
theorem step_keeps_gate (hs : m.world.Sound) (ho : ¬ move.Opens m.world g)
    (hx : m.world.gates g = some x) (hq : Q x) :
    ∃ y, (step m move).world.gates g = some y ∧ Q y := by
  by_cases hres : ∃ c, move.Resumes m.world c
  · -- the call opens no gate but those of its coordinator
    obtain ⟨c, op, rfl, hc, hr⟩ := hres
    refine ⟨x, ?_, hq⟩
    rw [← hx]
    unfold step
    split
    · rfl
    · exact perform_gates_of_resumes hr hc fun k hk hg => ho (.inr ⟨c, k, ⟨op, rfl, hc, hr⟩, hk, hg⟩)
  · let P (a : Scene) : Prop := a.1.Sound ∧ ∃ y, a.1.gates g = some y ∧ Q y
    refine ((step_changes m move).keep (P := P) (fun a b hab ha => ?_) ⟨hs, x, hx, hq⟩).2
    obtain ⟨ha, y, hy, hqy⟩ := ha
    obtain ⟨z, hz, hyz⟩ := hab.gate_passes ha (fun e => ho (.inl e)) (fun c h => hres ⟨c, h⟩) hy
    exact ⟨hab.sound ha, z, hz, hQ y z (ha.gates g y hy) hqy hyz⟩

/-- Moves of which none opens the gate keep it as well. -/
theorem run_keeps_gate (before moves : List Move)
    (ho : ∀ pre move, pre ++ [move] <+: moves → ¬ move.Opens (run {} (before ++ pre)).world g)
    (hx : (run {} before).world.gates g = some x) (hq : Q x) :
    ∃ y, (run {} (before ++ moves)).world.gates g = some y ∧ Q y := by
  induction moves using List.reverseRecOn with
  | nil => exact ⟨x, by rw [List.append_nil]; exact hx, hq⟩
  | append_singleton moves move ih =>
    obtain ⟨y, hy, hqy⟩ := ih fun pre move h => ho pre move (h.trans (List.prefix_append _ _))
    rw [← List.append_assoc, run_snoc]
    exact step_keeps_gate hQ (run_sound _) (ho moves move List.prefix_rfl) hy hqy

end Keeps

/-- A move that opens a gate leaves its count as it is. -/
theorem step_count_of_opens (ho : move.Opens m.world g) (hx : m.world.gates g = some x) :
    ∃ y, (step m move).world.gates g = some y ∧ y.outstanding = x.outstanding := by
  by_cases ha : m.signal = .aborted
  · unfold step
    rw [if_pos ha]
    exact ⟨x, hx, rfl⟩
  rcases ho with rfl | ⟨c, k, ⟨op, rfl, hc, -⟩, -, -⟩ <;> rw [step_call ha]
  · simp only [perform, reopen, hx, reply]
    exact ⟨x.reopen, Table.set_self _ _ _, rfl⟩
  · obtain ⟨y, hy, hout, -⟩ := perform_sameCounts (s := m.stack) hc g x hx
    exact ⟨y, hy, hout⟩

/-- **A gate that drains becomes drained with its last permit**: no move leaves it without work in flight
and not drained. -/
theorem step_drained (hs : m.world.Sound) (hx : m.world.gates g = some x) (hd : x.state = .draining) :
    ∃ y, (step m move).world.gates g = some y ∧
      (y.outstanding = 0 → y.state = .drained ∧ y.callback = none) := by
  by_cases ho : move.Opens m.world g
  · -- what was in flight still is
    obtain ⟨y, hy, hout⟩ := step_count_of_opens ho hx
    have hpos := ((hs.gates g x hx).draining hd).1
    exact ⟨y, hy, fun h0 => by omega⟩
  · have hQ (x y : Gate) (hx : x.Sound) (hq : x.state ≠ .running) (h : x.Passes y) :
        y.state ≠ .running := h.closed_of_closed hx hq
    obtain ⟨y, hy, hclosed⟩ := step_keeps_gate hQ hs ho hx (by rw [hd]; decide)
    have hs' : (step m move).world.Sound :=
      (step_changes m move).keep (P := fun a => a.1.Sound) (fun _ _ hab => hab.sound) hs
    have hys := hs'.gates g y hy
    refine ⟨y, hy, fun h0 => ?_⟩
    have hyd := hys.drained_of_idle hclosed h0
    exact ⟨hyd, (hys.drained hyd).2⟩

/-! ## Work that is turned away -/

/-- **Who asks a closed gate for work** leaves no trace. -/
theorem step_turnsAway (hs : m.world.Sound) (hop : op.asks? = some g) (hx : m.world.gates g = some x)
    (hc : x.state ≠ .running) :
    (step m (.call op)).world = m.world ∧ (step m (.call op)).stack = m.stack := by
  have hclosed : x.isOpen = false := decide_eq_false hc
  have haway : m.world.turnAway g x = (m.world, none) := turnAway_eq hx (hs.gates g x hx)
  by_cases ha : m.signal = .aborted
  · unfold step
    rw [if_pos ha]
    exact ⟨rfl, rfl⟩
  rw [step_call ha]
  cases op with
  | acquire f p =>
    cases hop
    simp only [perform, acquire, hx]
    split
    · rename_i z h _
      cases h
      simp only [hclosed, Bool.false_eq_true, if_false, haway]
      exact ⟨rfl, rfl⟩
    · exact ⟨rfl, rfl⟩
  | request site q p =>
    simp only [Op.asks?] at hop
    simp only [perform, request]
    cases hr : site.route q with
    | command c o =>
      rw [hr] at hop
      cases hop
    | own r =>
      rw [hr] at hop
      cases hop
    | gated f l =>
      rw [hr] at hop
      cases hop
      simp only [behindGate, hx]
      split
      · rename_i z h _
        cases h
        simp only [hclosed, Bool.false_eq_true, if_false, turnAway, haway]
        exact ⟨rfl, rfl⟩
      · exact ⟨rfl, rfl⟩
  | _ => cases hop

/-! ## Gates -/

/-- **The state of a gate agrees with its count** between any two moves of any run, also while callbacks,
hooks and handlers run.

* A gate that drains has work in flight and holds a callback, a drained one has none and holds none, and
  one that runs holds none.
* With the move that takes back its last permit, whichever it is, a gate that drains is drained.
* Who asks a closed gate for work is refused, and changes nothing at all.
* A drained gate stays drained until a move opens it. -/
theorem gate_consistent (moves : List Move) {g : GateId} {x : Gate}
    (hx : (run {} moves).world.gates g = some x) :
    let m := run {} moves
    (x.state = .draining → 0 < x.outstanding ∧ x.callback ≠ none) ∧
    (x.state = .drained → x.outstanding = 0 ∧ x.callback = none) ∧
    (x.state = .running → x.callback = none) ∧
    (x.state = .draining → ∀ move, ∃ y, (step m move).world.gates g = some y ∧
      (y.outstanding = 0 → y.state = .drained ∧ y.callback = none)) ∧
    (x.state ≠ .running →
      (∀ op, op.asks? = some g →
        (step m (.call op)).world = m.world ∧ (step m (.call op)).stack = m.stack) ∧
      ∀ p, m.world.issuer p = none → m.signal ≠ .aborted →
        (step m (.call (.acquire g p))).signal = .replied (.refused (.draining x.name))) ∧
    (x.state = .drained → ∀ more,
      (∀ pre move, pre ++ [move] <+: more → ¬ move.Opens (run m pre).world g) →
      ∃ y, (run m more).world.gates g = some y ∧
        y.state = .drained ∧ y.outstanding = 0 ∧ y.callback = none) := by
  intro m
  have hs : m.world.Sound := run_sound moves
  have hxs : x.Sound := hs.gates g x hx
  refine ⟨hxs.draining, hxs.drained, hxs.running, fun hd move => step_drained hs hx hd,
    fun hc => ⟨fun op hop => step_turnsAway hs hop hx hc, fun p hp ha => ?_⟩, fun hd more ho => ?_⟩
  · rw [step_acquire hs hx hc hp ha]
  · have hQ (x y : Gate) (hx : x.Sound) (hq : x.state = .drained) (h : x.Passes y) :
        y.state = .drained := h.drained_of_drained hx hq
    have hkeep := run_keeps_gate hQ moves more (fun pre move hpre => by
      rw [run_append]
      exact ho pre move hpre) hx hd
    rw [run_append] at hkeep
    obtain ⟨y, hy, hyd⟩ := hkeep
    have hs' : (run m more).world.Sound := by
      rw [← run_append]
      exact run_sound (moves ++ more)
    obtain ⟨h0, hcb⟩ := (hs'.gates g y hy).drained hyd
    exact ⟨y, hy, hyd, h0, hcb⟩

/-- The last permit of a gate that drains comes back. In the code that is entered then, the gate is drained,
and stays so while it is asked for work and closed again. -/
theorem gate_consistent_reentered :
    let g : GateId := ⟨⟨0, by decide⟩⟩
    let p : Permit := ⟨⟨⟨1, by decide⟩⟩, g⟩
    let moves : List Move := [.call (.newGate g "a"), .call (.acquire g p.id),
      .call (.beginDrain g ⟨0⟩)]
    let m := run {} moves
    let m' := run {} (moves ++ [.call (.release p)])
    let more : List Move := [.call (.acquire g ⟨⟨2, by decide⟩⟩), .call (.beginDrain g ⟨1⟩),
      .ret { status := 200 }]
    (∃ x, m.world.gates g = some x ∧ x.state = .draining ∧ x.outstanding = 1 ∧
      ∃ y, m'.world.gates g = some y ∧ y.state = .drained ∧ y.callback = none) ∧
    m'.stack = [.callback g ⟨0⟩ (.reply .done)] ∧
    ∃ y, (run m' more).world.gates g = some y ∧ y.state = .drained ∧ y.outstanding = 0 := by
  intro g p moves m m' more
  have hx : m.world.gates g = some
      { name := "a", state := .draining, outstanding := 1, permits := [p.id],
        callback := some (.run ⟨0⟩) } := by decide +kernel
  have hy : m'.world.gates g = some { name := "a", state := .drained } := by decide +kernel
  refine ⟨⟨_, hx, rfl, rfl, ?_⟩, by decide +kernel, ?_⟩
  · obtain ⟨-, -, -, hdrained, -⟩ := gate_consistent moves hx
    obtain ⟨y, hy', hlast⟩ := hdrained rfl (.call (.release p))
    have he : m'.world.gates g = some y := hy'
    cases hy.symm.trans he
    exact ⟨_, hy, hlast rfl⟩
  · obtain ⟨-, -, -, -, -, hstays⟩ := gate_consistent (moves ++ [.call (.release p)]) hy
    have hopens (pre : List Move) (move : Move) (hpre : pre ++ [move] <+: more) :
        ¬ move.Opens (run m' pre).world g := by
      have hmem : move ∈ more := hpre.subset (by simp)
      simp only [more, List.mem_cons, List.not_mem_nil, or_false] at hmem
      rcases hmem with rfl | rfl | rfl <;> exact not_opens nofun fun op h => by cases h <;> rfl
    obtain ⟨y, hy', hd, h0, -⟩ := hstays rfl more hopens
    exact ⟨y, hy', hd, h0⟩

end Machine

end Sluice
