import Sluice.Proofs.Tended

/-!
# Attempts to suspend

What one orderly move does to a coordinator that somebody holds, and to the work that is in flight at
its gates.

* `Continues`: how a coordinator in the middle of a move stands to what it was before. An attempt goes
  on under its generation until a call resumes the coordinator, and work that is in flight while it is
  suspended was there before, with the same coordinator or not yet with any.
* `Deed.continued`, `step_continues`: **every orderly move leaves each coordinator so**.
-/

namespace Sluice

open World

/-- How a coordinator in the world `w` stands to the world `w₀` in which the move began. -/
structure Continues (w₀ : World) (move : Machine.Move) (c : CoordinatorId) (w : World)
    (k : Coordinator) : Prop where
  alive : ∀ k₀, w₀.coordinators c = some k₀ → k₀.isAlive = true
  attempt : ∀ k₀, w₀.coordinators c = some k₀ → k₀.state ≠ .running → ¬ move.Resumes w₀ c →
    k.generation = k₀.generation ∧ k.state ≠ .running ∧ (k₀.state = .suspended → k.state = .suspended)
  work : k.state = .suspended → ∀ g ∈ k.gates, ∀ x, w.gates g = some x → 0 < x.outstanding →
    ∃ k₀ x₀, w₀.coordinators c = some k₀ ∧ k₀.state = .suspended ∧ k₀.version = k.version ∧
      w₀.gates g = some x₀ ∧ x.permits.Sublist x₀.permits ∧
      (g ∈ k₀.gates ∨ move = .call (.addGate c g))

/-- The work in flight on a list of gates was in flight on another list before. -/
def World.Ebbs (w w' : World) (gs gs' : List GateId) : Prop :=
  ∀ g ∈ gs', ∀ x', w'.gates g = some x' → 0 < x'.outstanding →
    g ∈ gs ∧ ∃ x, w.gates g = some x ∧ 0 < x.outstanding ∧ x'.permits.Sublist x.permits

section Continues

variable {w₀ w w' : World} {move : Machine.Move} {c : CoordinatorId} {k k' : Coordinator}

theorem continues_self (hk : w.coordinators c = some k) (hl : k.isAlive = true) :
    Continues w move c w k := by
  refine ⟨fun k₀ hk₀ => ?_, fun k₀ hk₀ hs _ => ?_, fun hs g hg x hx _ => ?_⟩
  · cases hk.symm.trans hk₀
    exact hl
  · cases hk.symm.trans hk₀
    exact ⟨rfl, hs, id⟩
  · exact ⟨k, x, hk, hs, rfl, hx, List.Sublist.refl _, .inl hg⟩

/-- The coordinator makes no transition, and no work comes in. -/
theorem Continues.keep (h : Continues w₀ move c w k) (hs : k'.state = k.state)
    (hn : k'.generation = k.generation) (hv : k'.version = k.version)
    (he : k.state = .suspended → w.Ebbs w' k.gates k'.gates) : Continues w₀ move c w' k' := by
  refine ⟨h.alive, fun k₀ hk₀ hs₀ hm => ?_, fun hs' g hg x' hx' hpos => ?_⟩
  · rw [hs, hn]
    exact h.attempt k₀ hk₀ hs₀ hm
  · rw [hs] at hs'
    -- what is in flight now was in flight then, and that had been so when the move began
    obtain ⟨hgk, x, hx, hxpos, hsub⟩ := he hs' g hg x' hx' hpos
    obtain ⟨k₀, x₀, hk₀, hs₀, hv₀, hx₀, hsub₀, hg₀⟩ := h.work hs' g hgk x hx hxpos
    exact ⟨k₀, x₀, hk₀, hs₀, hv₀.trans hv.symm, hx₀, hsub.trans hsub₀, hg₀⟩

/-- The attempt is complete, and no work is in flight. -/
theorem Continues.complete (h : Continues w₀ move c w k) (hs : k'.state = .suspended)
    (hn : k'.generation = k.generation)
    (hi : ∀ g ∈ k'.gates, ∀ x, w'.gates g = some x → ¬ 0 < x.outstanding) :
    Continues w₀ move c w' k' := by
  refine ⟨h.alive, fun k₀ hk₀ hs₀ hm => ?_, fun _ g hg x hx hpos => absurd hpos (hi g hg x hx)⟩
  rw [hs, hn]
  exact ⟨(h.attempt k₀ hk₀ hs₀ hm).1, by decide, fun _ => rfl⟩

/-- A gate is struck: the suspend goes on, or it waited for that gate only. -/
theorem Continues.struck (h : Continues w₀ move c w k) (g : GateId) (date : String)
    (he : w.Ebbs w' k.gates k.gates)
    (hi : ∀ p, k.pending = some p → (∀ f, p.waitsFor f = true → f = g) →
      ∀ f ∈ k.gates, ∀ x, w'.gates f = some x → ¬ 0 < x.outstanding) :
    Continues w₀ move c w' (k.struck g date) := by
  rcases Coordinator.struck_cases k g date with ⟨q, e⟩ | ⟨e, p, hp, -, hall⟩ <;> rw [e]
  · exact h.keep rfl rfl rfl fun _ => he
  · refine h.complete rfl (by simp) fun f hf x hx => ?_
    rw [Coordinator.completed_gates] at hf
    exact hi p hp hall f hf x hx

theorem Continues.alike (h : Continues w₀ move c w k) (hg : w'.gates = w.gates) (ha : k.Alike k') :
    Continues w₀ move c w' k' := by
  obtain ⟨_, _, _, _, rfl⟩ := ha
  refine h.keep rfl rfl rfl fun _ g hgk x hx hpos => ?_
  exact ⟨hgk, x, hg ▸ hx, hpos, List.Sublist.refl _⟩

end Continues

namespace World

variable {w w' : World} {g : GateId} {x y : Gate} {gs : List GateId}

/-- Gates are closed or opened. -/
theorem ebbs_map {hs : List GateId} {f : Gate → Gate} (ho : ∀ x, (f x).outstanding = x.outstanding)
    (hp : ∀ x, (f x).permits = x.permits)
    (hg : ∀ g, w'.gates g = if g ∈ hs then (w.gates g).map f else w.gates g) : w.Ebbs w' gs gs := by
  intro g hgs x' hx' hpos
  rw [hg g] at hx'
  split at hx'
  · obtain ⟨x, hx, rfl⟩ := Option.map_eq_some_iff.1 hx'
    rw [ho] at hpos
    rw [hp]
    exact ⟨hgs, x, hx, hpos, List.Sublist.refl _⟩
  · exact ⟨hgs, x', hx', hpos, List.Sublist.refl _⟩

/-- One gate has changed, and no work has come in there. -/
theorem ebbs_set (hg : w'.gates = w.gates.set g y)
    (hy : g ∈ gs → 0 < y.outstanding →
      ∃ x, w.gates g = some x ∧ 0 < x.outstanding ∧ y.permits.Sublist x.permits) : w.Ebbs w' gs gs := by
  intro f hf z hz hpos
  rw [hg] at hz
  rcases Table.set_cases hz with ⟨rfl, rfl⟩ | ⟨-, hz⟩
  · exact ⟨hf, hy hf hpos⟩
  · exact ⟨hf, z, hz, hpos, List.Sublist.refl _⟩

theorem ebbs_sub {gs' : List GateId} (hg : w'.gates = w.gates) (hsub : gs' ⊆ gs) : w.Ebbs w' gs gs' :=
  fun _ hf z hz hpos => ⟨hsub hf, z, hg ▸ hz, hpos, List.Sublist.refl _⟩

end World

namespace Machine

/-- A coordinator, if somebody holds it, stands so to what it was before. -/
def Continued (w₀ : World) (move : Move) (c : CoordinatorId) (w : World) : Prop :=
  ∀ k, w.coordinators c = some k → k.isAlive = true → Continues w₀ move c w k

section Continued

variable {w₀ w w' : World} {move : Move} {c d : CoordinatorId} {k k' : Coordinator} {g : GateId}
  {x y : Gate}

/-- The coordinator is as it was, and no work comes in. -/
theorem Continued.same (h : Continued w₀ move c w) (hc : w'.coordinators c = w.coordinators c)
    (he : ∀ gs, w.Ebbs w' gs gs) : Continued w₀ move c w' :=
  fun k hk hl => (h k (hc ▸ hk) hl).keep rfl rfl rfl fun _ => he _

/-- One coordinator has changed, and no work comes in at the gates of the others. -/
theorem Continued.changeCoordinator (h : Continued w₀ move c w)
    (hc : w'.coordinators = w.coordinators.set d k') (he : ∀ gs, w.Ebbs w' gs gs)
    (hk : c = d → Continues w₀ move c w' k') : Continued w₀ move c w' := by
  intro k hck hl
  rw [hc] at hck
  rcases Table.set_cases hck with ⟨hcd, rfl⟩ | ⟨-, hck⟩
  · exact hk hcd
  · exact (h k hck hl).keep rfl rfl rfl fun _ => he _

/-- A suspend that waits for one gate only has no work in flight at another. -/
theorem idle_of_waits {p : Pending} (h : w.Tended) (hk : w.coordinators c = some k)
    (hl : k.isAlive = true) (hp : k.pending = some p) (hall : ∀ f, p.waitsFor f = true → f = g)
    {f : GateId} (hf : f ∈ k.gates) (hfg : f ≠ g) (hx : w.gates f = some x) : ¬ 0 < x.outstanding :=
  fun hpos => hfg (hall f (((h.attended c k f x hk hl hf hx).waits p hp).2 hpos))

/-! ## What deeds do to attempts -/

theorem Continued.letIn {p : PermitId} (ht : w.Tended) (h : Continued w₀ move c w)
    (hx : w.gates g = some x) (ho : x.isOpen = true) : Continued w₀ move c (w.letIn g x p) := by
  intro k hk hl
  refine (h k hk hl).keep rfl rfl rfl fun hs => ebbs_set rfl fun hg _ => ?_
  -- the gates of a suspended coordinator are closed
  have hc := (ht.attended c k g x hk hl hg hx).closed (by rw [hs]; decide)
  exact absurd (of_decide_eq_true ho) hc

theorem Continued.returned {p : PermitId} {callback : Option DrainCallback} (ht : w.Tended)
    (h : Continued w₀ move c w) (hx : w.gates g = some x) (hr : x.release? p = some (y, callback)) :
    Continued w₀ move c (w.setGate g y) := by
  obtain ⟨hpos, -, hperm, -⟩ := Gate.release?_cases (ht.sound.gates g x hx) hr
  have hsub : y.permits.Sublist x.permits := hperm ▸ List.erase_sublist
  exact h.same rfl fun gs => ebbs_set rfl fun _ _ => ⟨x, hx, hpos, hsub⟩

/-- **The last permit of a gate comes back**, and the coordinator that waits for it strikes it. -/
theorem Continued.reported {v : World} {p : PermitId} {n : Nat} (ht : w.Tended)
    (h : Continued w₀ move c w) (hx : w.gates g = some x)
    (hr : x.release? p = some (y, some (.report d n))) (hk : w.coordinators d = some k)
    (hl : k.isAlive = true) (hg : v.gates = w.gates.set g y)
    (hc : v.coordinators = w.coordinators) : Continued w₀ move c (v.strike d k g) := by
  obtain ⟨hpos, hout, hperm, -, -, hcase⟩ := Gate.release?_cases (ht.sound.gates g x hx) hr
  -- a callback is handed out with the last permit only
  have hidle : y.outstanding = 0 := by
    rcases hcase with ⟨h1, -⟩ | ⟨-, -, -, hcb⟩
    · omega
    · cases hcb
  have hsub : y.permits.Sublist x.permits := hperm ▸ List.erase_sublist
  have hgates : (v.strike d k g).gates = w.gates.set g y := (strike_gates v d k g).trans hg
  have he (gs : List GateId) : w.Ebbs (v.strike d k g) gs gs :=
    ebbs_set hgates fun _ _ => ⟨x, hx, hpos, hsub⟩
  have hcoord : (v.strike d k g).coordinators = w.coordinators.set d (k.struck g v.date) := by
    rw [strike_coordinators, hc]
  refine h.changeCoordinator hcoord he fun hcd => ?_
  subst hcd
  refine (h k hk hl).struck g v.date (he _) fun q hq hall f hf z hz => ?_
  rw [hgates] at hz
  -- this gate was the last that was waited for, and it is idle now
  rcases Table.set_cases hz with ⟨-, rfl⟩ | ⟨hfg, hz⟩
  · omega
  · exact idle_of_waits ht hk hl hq hall hf hfg hz

theorem Continued.newCoordinator (h : Continued w move c w) (hd : w.coordinators d = none) :
    Continued w move c (w.setCoordinator d {}) := by
  refine h.changeCoordinator (setCoordinator_coordinators w d {})
    (fun gs => ebbs_sub rfl (List.Subset.refl _)) fun hcd => ?_
  subst hcd
  exact ⟨fun _ hk => (nomatch hd.symm.trans hk), fun _ hk => (nomatch hd.symm.trans hk),
    fun hs => by simp at hs⟩

theorem Continued.suspend (h : Continued w₀ move c w) (hk : w.coordinators d = some k)
    (hl : k.isAlive = true) (hs : k.state = .running) : Continued w₀ move c (w.suspend d k) := by
  refine h.changeCoordinator (suspend_coordinators w d k) (fun gs => ?_) fun hcd => ?_
  · exact ebbs_map (Gate.beginDrain_outstanding · _) (Gate.beginDrain_permits · _)
      (suspend_gates w d k)
  subst hcd
  refine ⟨(h k hk hl).alive, fun k₀ hk₀ hs₀ hm => ?_, fun hs' g hg y hy hpos => ?_⟩
  · -- a new attempt begins, so no other goes on
    exact absurd hs ((h k hk hl).attempt k₀ hk₀ hs₀ hm).2.1
  · -- the suspend is complete at once only if no gate is busy
    rw [Coordinator.suspendedWith_state] at hs'
    rw [Coordinator.suspendedWith_gates] at hg
    rw [suspend_gates, if_pos hg] at hy
    obtain ⟨x, hx, rfl⟩ := Option.map_eq_some_iff.1 hy
    rw [Gate.beginDrain_outstanding] at hpos
    have hb : (g, x.name) ∈ w.busy k.gates := mem_busy.2 ⟨hg, x, hx, by omega, rfl⟩
    rw [if_neg (List.ne_nil_of_mem hb)] at hs'
    cases hs'

theorem Continued.resume (h : Continued w₀ move c w) (hm : move.Resumes w₀ d)
    (hk : w.coordinators d = some k) (hl : k.isAlive = true) : Continued w₀ move c (w.resume d k) := by
  refine h.changeCoordinator (resume_coordinators w d k) (fun gs => ?_) fun hcd => ?_
  · exact ebbs_map Gate.reopen_outstanding (fun _ => rfl) (resume_gates w d k)
  subst hcd
  exact ⟨(h k hk hl).alive, fun _ _ _ hne => absurd hm hne, fun hs => by simp at hs⟩

/-- **A gate is added**, and brings with it what is in flight there. -/
theorem Continued.addGate (ht : w.Tended) (h : Continued w move c w)
    (hm : move = .call (.addGate d g)) (hk : w.coordinators d = some k) (hl : k.isAlive = true)
    (hx : w.gates g = some x) : Continued w move c (w.addGate d k g x) := by
  by_cases hgk : g ∈ k.gates
  · rw [addGate_of_mem hgk]
    exact h.same rfl fun gs => ebbs_sub rfl (List.Subset.refl _)
  obtain ⟨y, hgates, hyx⟩ := addGate_gates_eq (c := d) hx hgk
  obtain ⟨hout, hperm⟩ : y.outstanding = x.outstanding ∧ y.permits = x.permits := by
    rcases hyx with rfl | rfl <;> simp
  refine h.changeCoordinator (addGate_coordinators hgk (ht.sound.coordinators d k hk).sound)
    (fun gs => ?_) fun hcd => ?_
  · exact ebbs_set hgates fun _ hpos => ⟨x, hx, hout ▸ hpos, hperm ▸ List.Sublist.refl _⟩
  subst hcd
  refine ⟨(h k hk hl).alive, fun k₀ hk₀ hs _ => ?_, fun hs f hf z hz hpos => ?_⟩
  · cases hk.symm.trans hk₀
    exact ⟨rfl, hs, id⟩
  rw [hgates] at hz
  rcases Table.set_cases hz with ⟨rfl, rfl⟩ | ⟨hfg, hz⟩
  · -- the added gate
    exact ⟨k, x, hk, hs, rfl, hx, hperm ▸ List.Sublist.refl _, .inr hm⟩
  · have hfk : f ∈ k.gates :=
      (List.mem_append.1 hf).resolve_right fun hm => hfg (List.mem_singleton.1 hm)
    exact ⟨k, z, hk, hs, rfl, hz, List.Sublist.refl _, .inl hfk⟩

theorem Continued.registerGate {name : String} (ht : w.Tended) (h : Continued w₀ move c w)
    (hk : w.coordinators d = some k) (hl : k.isAlive = true) (hg : w.gates g = none) :
    Continued w₀ move c ((w.setGate g { name }).addGate d k g { name }) := by
  set v : World := w.setGate g { name }
  have hkf := ht.sound.coordinators d k hk
  have hgk : g ∉ k.gates := fun hgk => by
    obtain ⟨x, hx⟩ := hkf.known g hgk
    cases hg.symm.trans hx
  obtain ⟨y, hgates, hyx⟩ := addGate_gates_eq (w := v) (c := d) (Table.set_self _ _ _) hgk
  have hout : y.outstanding = 0 := by rcases hyx with rfl | rfl <;> simp
  rw [setGate_gates, Table.set_set] at hgates
  have he (gs : List GateId) : w.Ebbs (v.addGate d k g { name }) gs gs :=
    ebbs_set hgates fun _ hpos => by omega
  refine h.changeCoordinator (addGate_coordinators (w := v) hgk hkf.sound) he fun hcd => ?_
  subst hcd
  refine (h k hk hl).keep rfl rfl rfl fun _ f hf z hz hpos => ?_
  rcases List.mem_append.1 hf with hfk | hfg
  · exact he k.gates f hfk z hz hpos
  · -- no work is in flight on a new gate
    rw [List.mem_singleton.1 hfg, hgates, Table.set_self] at hz
    cases hz
    omega

theorem Continued.removeGate (ht : w.Tended) (h : Continued w₀ move c w)
    (hk : w.coordinators d = some k) (hl : k.isAlive = true) (g : GateId) :
    Continued w₀ move c (w.removeGate d k g) := by
  set k₁ : Coordinator := { k with gates := k.gates.filter (· ≠ g) }
  have hgates : (w.removeGate d k g).gates = w.gates := strike_gates w d k₁ g
  refine h.changeCoordinator (strike_coordinators w d k₁ g)
    (fun gs => ebbs_sub hgates (List.Subset.refl _)) fun hcd => ?_
  subst hcd
  -- first the gate is unregistered, then struck
  have h₁ : Continues w₀ move c w k₁ :=
    (h k hk hl).keep rfl rfl rfl fun _ => ebbs_sub rfl List.filter_sublist.subset
  refine h₁.struck g w.date (ebbs_sub hgates (List.Subset.refl _)) fun p hp hall f hf z hz => ?_
  obtain ⟨hfk, hfg⟩ : f ∈ k.gates ∧ f ≠ g := by simpa [k₁] using hf
  exact idle_of_waits ht hk hl hp hall hfk hfg (hgates ▸ hz)

end Continued

variable {w₀ w w' : World} {move : Move} {c : CoordinatorId} {k : Coordinator}

/-- **A deed continues attempts.** -/
theorem Deed.continued (ht : w.Tended) (hd : Deed w₀ move w w') (h : Continued w₀ move c w) :
    Continued w₀ move c w' := by
  cases hd with
  | nothing => exact h
  | gateMade hg => exact h.same rfl fun gs => ebbs_set rfl fun _ hpos => by simp at hpos
  | letIn hx ho => exact h.letIn ht hx ho
  | returned hx hr _ => exact h.returned ht hx hr
  | reported hx hr hk hl _ hg hc => exact h.reported ht hx hr hk hl hg hc
  | coordinatorMade hc => exact h.newCoordinator hc
  | suspended hk hl hs => exact h.suspend hk hl hs
  | resumed hm hk hl => exact h.resume hm hk hl
  | gateAdded hm hk hl hx _ => exact h.addGate ht hm hk hl hx
  | gateRegistered hk hl hg => exact h.registerGate ht hk hl hg
  | gateRemoved hk hl => exact h.removeGate ht hk hl _

/-- **Every orderly move leaves each coordinator in the middle of its attempt, or with a new one.** -/
theorem step_continues {m : Machine} (ht : m.world.Tended) (ho : Orderly m.world move)
    (hk : (step m move).world.coordinators c = some k) (hl : k.isAlive = true) :
    Continues m.world move c (step m move).world k := by
  let P (a : Scene) : Prop := a.1.Tended ∧ Continued m.world move c a.1
  have hstart : P m.scene := ⟨ht, fun _ hk hl => continues_self hk hl⟩
  refine ((step_changes m move).keep (P := P) (fun a b hab ha => ?_) hstart).2 k hk hl
  refine ⟨hab.tended ho ha.1, fun k' hk' hl' => ?_⟩
  -- after the deed the coordinator is the same, but for whom it tells and who holds it
  obtain ⟨v, hd, halike, hwanes⟩ := hab.deed ho ha.1.sound
  obtain ⟨k, hkv, hkk⟩ := halike.coordinators c k' hk'
  obtain ⟨l, hlv, hlive⟩ := hwanes c k' hk' hl'
  cases hkv.symm.trans hlv
  exact (hd.continued ha.1 ha.2 k hkv hlive).alike halike.gates hkk

end Machine

end Sluice
