import Sluice.Proofs.Suspend

/-!
# The gates of running coordinators

As those on suspends, the statement is about driven runs.

* `World.Shut`: a gate lets nothing in. `World.Spares`: gates that were open have stayed so.
* `Lags`: a gate that a running coordinator has closed was closed before the move, with the coordinator
  running and the gate its own or just being added. `Deed.lagging`, `step_lags`: **every orderly move
  keeps it so**.
* `running_open`: **a running coordinator has open every gate but those that came to it closed**, when it
  was running already.
* `running_shut`: a gate that is unregistered while it is closed does come back so.
-/

namespace Sluice

open World

/-- A gate is there and lets nothing in. -/
def World.Shut (w : World) (g : GateId) : Prop := ∃ x, w.gates g = some x ∧ x.state ≠ .running

/-- Of these gates none is closed that was open. -/
def World.Spares (w w' : World) (gs : List GateId) : Prop := ∀ g ∈ gs, w'.Shut g → w.Shut g

/-- What was there in the world `w₀` in which the move began, of the gates that a running coordinator
has closed in the world `w`. -/
def Lags (w₀ : World) (move : Machine.Move) (c : CoordinatorId) (w : World) (k : Coordinator) : Prop :=
  k.state = .running → ∀ g ∈ k.gates, w.Shut g → w₀.Shut g ∧
    ∃ k₀, w₀.coordinators c = some k₀ ∧ k₀.state = .running ∧ k₀.version = k.version ∧
      (g ∈ k₀.gates ∨ move = .call (.addGate c g))

section Lags

variable {w₀ w w' : World} {move : Machine.Move} {c : CoordinatorId} {k k' : Coordinator} {g : GateId}
  {gs : List GateId} {x y : Gate}

theorem lags_self (hk : w.coordinators c = some k) : Lags w move c w k :=
  fun hs _ hg hx => ⟨hx, k, hk, hs, rfl, .inl hg⟩

theorem lags_of_closed (hs : k.state ≠ .running) : Lags w₀ move c w k := fun h => absurd h hs

/-- The coordinator makes no transition and gets no gate, and the gates that it has are not closed. -/
theorem Lags.keep (h : Lags w₀ move c w k) (hs : k'.state = k.state) (hv : k'.version = k.version)
    (hsub : k'.gates ⊆ k.gates) (he : w.Spares w' k.gates) : Lags w₀ move c w' k' := by
  intro hr g hg hx
  have hgk : g ∈ k.gates := hsub hg
  obtain ⟨hx₀, k₀, hk₀, hs₀, hv₀, hg₀⟩ := h (hs ▸ hr) g hgk (he g hgk hx)
  exact ⟨hx₀, k₀, hk₀, hs₀, hv₀.trans hv.symm, hg₀⟩

theorem spares_of_eq (hg : w'.gates = w.gates) : w.Spares w' gs := by
  rintro f - ⟨x, hx, hc⟩
  exact ⟨x, hg ▸ hx, hc⟩

/-- A gate is struck. A coordinator that is running has none to strike. -/
theorem Lags.struck (h : Lags w₀ move c w k) (hg : w'.gates = w.gates) (g : GateId) (date : String) :
    Lags w₀ move c w' (k.struck g date) := by
  rcases Coordinator.struck_cases k g date with ⟨q, e⟩ | ⟨e, -⟩ <;> rw [e]
  · exact h.keep rfl rfl (List.Subset.refl _) (spares_of_eq hg)
  · exact lags_of_closed (by simp)

/-- One gate has changed, and is closed only if it was. -/
theorem spares_set (hg : w'.gates = w.gates.set g y) (hy : g ∈ gs → y.state ≠ .running → w.Shut g) :
    w.Spares w' gs := by
  rintro f hf ⟨z, hz, hc⟩
  rw [hg] at hz
  rcases Table.set_cases hz with ⟨rfl, rfl⟩ | ⟨-, hz⟩
  · exact hy hf hc
  · exact ⟨z, hz, hc⟩

/-- To take a permit back closes no gate. -/
theorem spares_release {p : PermitId} {callback : Option DrainCallback} (hxs : x.Sound)
    (hx : w.gates g = some x) (hr : x.release? p = some (y, callback))
    (hg : w'.gates = w.gates.set g y) : w.Spares w' gs := by
  refine spares_set hg fun _ hc => ⟨x, hx, ?_⟩
  obtain ⟨-, -, -, -, -, hcase⟩ := Gate.release?_cases hxs hr
  rcases hcase with ⟨-, hdrain, -⟩ | ⟨-, hys, -⟩
  · rw [hdrain]
    decide
  · exact hys ▸ hc

end Lags

namespace Machine

/-- A coordinator, if somebody holds it, has no gates closed but such as were so before. -/
def Lagging (w₀ : World) (move : Move) (c : CoordinatorId) (w : World) : Prop :=
  ∀ k, w.coordinators c = some k → k.isAlive = true → Lags w₀ move c w k

section Lagging

variable {w₀ w w' : World} {move : Move} {c d : CoordinatorId} {k k' l : Coordinator} {g : GateId}
  {x y : Gate}

/-- The coordinator is as it was, and no gate is closed. -/
theorem Lagging.same (h : Lagging w₀ move c w) (hc : w'.coordinators c = w.coordinators c)
    (he : ∀ gs, w.Spares w' gs) : Lagging w₀ move c w' :=
  fun k hk hl => (h k (hc ▸ hk) hl).keep rfl rfl (List.Subset.refl _) (he _)

/-- One coordinator has changed, and the gates of the others are not closed. -/
theorem Lagging.changeCoordinator (h : Lagging w₀ move c w)
    (hc : w'.coordinators = w.coordinators.set d k')
    (he : ∀ l, c ≠ d → w.coordinators c = some l → l.isAlive = true → w.Spares w' l.gates)
    (hk : c = d → Lags w₀ move c w' k') : Lagging w₀ move c w' := by
  intro l hcl hl
  rw [hc] at hcl
  rcases Table.set_cases hcl with ⟨hcd, rfl⟩ | ⟨hcd, hcl⟩
  · exact hk hcd
  · exact (h l hcl hl).keep rfl rfl (List.Subset.refl _) (he l hcd hcl hl)

/-- No gate has two coordinators that somebody holds. -/
theorem not_mem_of_tended (ht : w.Tended) (hcd : c ≠ d) (hk : w.coordinators d = some k)
    (hl : k.isAlive = true) (hcl : w.coordinators c = some l) (hll : l.isAlive = true)
    (hg : g ∈ l.gates) : g ∉ k.gates :=
  fun hgk => hcd (ht.sole d k g hk hl hgk c l hcl hll hg)

/-! ## What deeds do to closed gates -/

theorem Lagging.suspend (ht : w.Tended) (h : Lagging w₀ move c w) (hk : w.coordinators d = some k)
    (hl : k.isAlive = true) : Lagging w₀ move c (w.suspend d k) := by
  refine h.changeCoordinator (suspend_coordinators w d k) (fun l hcd hcl hll g hg hx => ?_) fun _ => ?_
  · -- only the gates of the coordinator that suspends are closed
    obtain ⟨x, hx, hc⟩ := hx
    rw [suspend_gates, if_neg (not_mem_of_tended ht hcd hk hl hcl hll hg)] at hx
    exact ⟨x, hx, hc⟩
  · refine lags_of_closed ?_
    rw [Coordinator.suspendedWith_state]
    split <;> decide

theorem Lagging.resume (h : Lagging w₀ move c w) : Lagging w₀ move c (w.resume d k) := by
  -- a gate that is closed afterwards is none that was opened
  have hshut (g : GateId) (hx : (w.resume d k).Shut g) : g ∉ k.gates ∧ w.Shut g := by
    obtain ⟨x, hx, hc⟩ := hx
    rw [resume_gates] at hx
    split at hx
    · obtain ⟨y, -, rfl⟩ := Option.map_eq_some_iff.1 hx
      exact absurd rfl hc
    · rename_i hg
      exact ⟨hg, x, hx, hc⟩
  refine h.changeCoordinator (resume_coordinators w d k) (fun l _ _ _ g _ hx => (hshut g hx).2)
    fun _ _ g hg hx => ?_
  rw [Coordinator.reopening_gates] at hg
  exact absurd hg (hshut g hx).1

/-- **A gate is added**, and stays closed if it was and the coordinator is running. -/
theorem Lagging.addGate (ht : w.Tended) (h : Lagging w move c w) (hm : move = .call (.addGate d g))
    (hk : w.coordinators d = some k) (hx : w.gates g = some x) (ho : w.Sole d g) :
    Lagging w move c (w.addGate d k g x) := by
  by_cases hgk : g ∈ k.gates
  · rw [addGate_of_mem hgk]
    exact h.same rfl fun gs => spares_of_eq rfl
  refine h.changeCoordinator (addGate_coordinators hgk (ht.sound.coordinators d k hk).sound)
    (fun l hcd hcl hll => ?_) fun hcd => ?_
  · -- the gate is nobody else's
    obtain ⟨y, hgates, -⟩ := addGate_gates_eq (c := d) hx hgk
    exact spares_set hgates fun hg _ => absurd (ho c l hcl hll hg) hcd
  subst hcd
  intro hr f hf hs
  have hrun : k.state = .running := hr
  have hgates : (w.addGate c k g x).gates = w.gates := by rw [addGate_gates hgk, if_pos hrun]
  refine ⟨spares_of_eq hgates f hf hs, k, hk, hrun, rfl, ?_⟩
  rcases List.mem_append.1 hf with hfk | hfg
  · exact .inl hfk
  · rw [List.mem_singleton.1 hfg]
    exact .inr hm

theorem Lagging.registerGate {name : String} (ht : w.Tended) (h : Lagging w₀ move c w)
    (hk : w.coordinators d = some k) (hl : k.isAlive = true) (hg : w.gates g = none) :
    Lagging w₀ move c ((w.setGate g { name }).addGate d k g { name }) := by
  set v : World := w.setGate g { name }
  -- a gate that is new is nobody's
  have hnew {e : CoordinatorId} {l : Coordinator} (hel : w.coordinators e = some l) : g ∉ l.gates := by
    intro hgl
    obtain ⟨x, hx⟩ := (ht.sound.coordinators e l hel).known g hgl
    cases hg.symm.trans hx
  have hgk : g ∉ k.gates := hnew hk
  have hks := (ht.sound.coordinators d k hk).sound
  refine h.changeCoordinator (addGate_coordinators (w := v) hgk hks) (fun l _ hcl _ => ?_) fun hcd => ?_
  · obtain ⟨y, hgates, -⟩ := addGate_gates_eq (w := v) (c := d) (Table.set_self _ _ _) hgk
    rw [setGate_gates, Table.set_set] at hgates
    exact spares_set hgates fun hgl _ => absurd hgl (hnew hcl)
  subst hcd
  intro hr f hf hs
  have hrun : k.state = .running := hr
  have hgates : (v.addGate c k g { name }).gates = w.gates.set g { name } := by
    rw [addGate_gates hgk, if_pos hrun]
    rfl
  obtain ⟨x, hx, hc⟩ := hs
  rw [hgates] at hx
  rcases Table.set_cases hx with ⟨-, rfl⟩ | ⟨hfg, hx⟩
  · -- and it is open
    exact absurd rfl hc
  · have hfk : f ∈ k.gates :=
      (List.mem_append.1 hf).resolve_right fun hm => hfg (List.mem_singleton.1 hm)
    exact h k hk hl hrun f hfk ⟨x, hx, hc⟩

theorem Lagging.removeGate (h : Lagging w₀ move c w) (hk : w.coordinators d = some k)
    (hl : k.isAlive = true) (g : GateId) : Lagging w₀ move c (w.removeGate d k g) := by
  set k₁ : Coordinator := { k with gates := k.gates.filter (· ≠ g) }
  have hgates : (w.removeGate d k g).gates = w.gates := strike_gates w d k₁ g
  refine h.changeCoordinator (strike_coordinators w d k₁ g) (fun l _ _ _ => spares_of_eq hgates)
    fun hcd => ?_
  subst hcd
  have h₁ : Lags w₀ move c w k₁ :=
    (h k hk hl).keep rfl rfl List.filter_sublist.subset (spares_of_eq rfl)
  exact h₁.struck hgates g w.date

/-- The last permit of a gate comes back, and the coordinator that waits for it strikes it. -/
theorem Lagging.reported {v : World} {p : PermitId} {callback : Option DrainCallback} (ht : w.Tended)
    (h : Lagging w₀ move c w) (hx : w.gates g = some x) (hr : x.release? p = some (y, callback))
    (hk : w.coordinators d = some k) (hl : k.isAlive = true) (hg : v.gates = w.gates.set g y)
    (hc : v.coordinators = w.coordinators) : Lagging w₀ move c (v.strike d k g) := by
  have hspares (gs : List GateId) : w.Spares v gs := spares_release (ht.sound.gates g x hx) hx hr hg
  have hv : Lagging w₀ move c v := h.same (by rw [hc]) hspares
  have hgates : (v.strike d k g).gates = v.gates := strike_gates v d k g
  refine hv.changeCoordinator (strike_coordinators v d k g) (fun l _ _ _ => spares_of_eq hgates)
    fun hcd => ?_
  subst hcd
  exact (hv k (by rw [hc, hk]) hl).struck hgates g v.date

end Lagging

variable {w₀ w w' : World} {move : Move} {c : CoordinatorId} {k : Coordinator}

/-- **A deed leaves no gate of a running coordinator closed** that was not so before. -/
theorem Deed.lagging (ht : w.Tended) (hd : Deed w₀ move w w') (h : Lagging w₀ move c w) :
    Lagging w₀ move c w' := by
  cases hd with
  | nothing => exact h
  | gateMade _ => exact h.same rfl fun gs => spares_set rfl fun _ hc => absurd rfl hc
  | letIn hx _ => exact h.same rfl fun gs => spares_set rfl fun _ hc => ⟨_, hx, hc⟩
  | returned hx hr _ =>
    exact h.same rfl fun gs => spares_release (ht.sound.gates _ _ hx) hx hr rfl
  | reported hx hr hk hl _ hg hc => exact h.reported ht hx hr hk hl hg hc
  | coordinatorMade _ =>
    refine h.changeCoordinator (setCoordinator_coordinators _ _ _) (fun l _ _ _ => spares_of_eq rfl) ?_
    exact fun _ _ g hg => by simp at hg
  | suspended hk hl _ => exact h.suspend ht hk hl
  | resumed _ _ _ => exact h.resume
  | gateAdded hm hk _ hx ho => exact h.addGate ht hm hk hx ho
  | gateRegistered hk hl hg => exact h.registerGate ht hk hl hg
  | gateRemoved hk hl => exact h.removeGate hk hl _

/-- **Every orderly move leaves a running coordinator with no gate closed** but such as were so before. -/
theorem step_lags {m : Machine} (ht : m.world.Tended) (ho : Orderly m.world move)
    (hk : (step m move).world.coordinators c = some k) (hl : k.isAlive = true) :
    Lags m.world move c (step m move).world k := by
  let P (a : Scene) : Prop := a.1.Tended ∧ Lagging m.world move c a.1
  have hstart : P m.scene := ⟨ht, fun _ hk _ => lags_self hk⟩
  refine ((step_changes m move).keep (P := P) (fun a b hab ha => ?_) hstart).2 k hk hl
  refine ⟨hab.tended ho ha.1, fun k' hk' hl' => ?_⟩
  -- after the deed the coordinator is the same, but for whom it tells and who holds it
  obtain ⟨v, hd, halike, hwanes⟩ := hab.deed ho ha.1.sound
  obtain ⟨k, hkv, hkk⟩ := halike.coordinators c k' hk'
  obtain ⟨l, hlv, hlive⟩ := hwanes c k' hk' hl'
  cases hkv.symm.trans hlv
  have hlags : Lags m.world move c v k := hd.lagging ha.1 ha.2 k hkv hlive
  obtain ⟨_, _, _, _, rfl⟩ := hkk
  exact hlags.keep rfl rfl (List.Subset.refl _) (spares_of_eq halike.gates)

/-! ## Runs -/

section Runs

open scoped List

variable {moves : List Move}

/-- A coordinator is running from the end of one run to the end of a longer one, and makes no
transition in between. -/
def RunningFrom (c : CoordinatorId) (version : Nat) (pre moves : List Move) : Prop :=
  ∀ mid, pre <+: mid → mid <+: moves →
    ∃ k, (run {} mid).world.coordinators c = some k ∧ k.state = .running ∧ k.version = version

/-- A gate that a running coordinator has closed was closed when it was added. -/
theorem added_of_shut (h : Driven {} moves) (hk : (run {} moves).world.coordinators c = some k)
    (hl : k.isAlive = true) (hs : k.state = .running) {g : GateId} (hg : g ∈ k.gates)
    (hx : (run {} moves).world.Shut g) :
    ∃ pre, pre ++ [.call (.addGate c g)] <+: moves ∧ RunningFrom c k.version pre moves ∧
      ∃ k₀, (run {} pre).world.coordinators c = some k₀ ∧ g ∉ k₀.gates ∧
        (run {} pre).world.Shut g := by
  -- back to the move before which the gate was not registered; until then all was as it is
  induction moves using List.reverseRecOn generalizing k with
  | nil => cases hk
  | append_singleton moves move ih =>
    obtain ⟨hd, ho⟩ := driven_snoc.1 h
    have hk' : (step (run {} moves) move).world.coordinators c = some k := by rwa [← run_snoc]
    have hx' : (step (run {} moves) move).world.Shut g := by rwa [← run_snoc]
    have ht := run_tended hd
    obtain ⟨hx₀, k₀, hk₀, hs₀, hv₀, hg₀⟩ := step_lags ht ho hk' hl hs g hg hx'
    have hl₀ : k₀.isAlive = true := (step_continues ht ho hk' hl).alive k₀ hk₀
    have hfrom {pre : List Move} (hpre : RunningFrom c k₀.version pre moves) :
        RunningFrom c k.version pre (moves ++ [move]) := by
      intro mid hmid hle
      rcases List.prefix_concat_iff.1 hle with rfl | hle
      · exact ⟨k, hk, hs, rfl⟩
      · obtain ⟨k₁, hk₁, hs₁, hv₁⟩ := hpre mid hmid hle
        exact ⟨k₁, hk₁, hs₁, hv₁.trans hv₀⟩
    by_cases hgk : g ∈ k₀.gates
    · -- it was registered before the last move, too
      obtain ⟨pre, hpre, hrun, hadded⟩ := ih hd hk₀ hl₀ hs₀ hgk hx₀
      exact ⟨pre, hpre.trans (List.prefix_append _ _), hfrom hrun, hadded⟩
    · -- the last move has added it
      obtain rfl := hg₀.resolve_left hgk
      refine ⟨moves, List.prefix_refl _, hfrom fun mid hle hge => ?_, k₀, hk₀, hgk, hx₀⟩
      obtain rfl := hge.eq_of_length (Nat.le_antisymm hge.length_le hle.length_le)
      exact ⟨k₀, hk₀, hs₀, rfl⟩

/-- An open gate lets work in. -/
theorem step_acquire_open {m : Machine} {g : GateId} {x : Gate} {p : PermitId}
    (hx : m.world.gates g = some x) (hs : x.state = .running) (hp : m.world.issuer p = none)
    (ha : m.signal ≠ .aborted) :
    step m (.call (.acquire g p)) = ⟨m.world.letIn g x p, m.stack, .replied .done⟩ := by
  unfold step
  rw [if_neg ha]
  simp only [perform, acquire, hx, hp, Gate.isOpen, hs, decide_true, if_true]
  rfl

/-- **A running coordinator has its gates open**, and they let work in. The only exceptions are gates
that somebody has added to it closed, since its last transition. -/
theorem running_open (h : Driven {} moves) (hk : (run {} moves).world.coordinators c = some k)
    (hl : k.isAlive = true) (hs : k.state = .running) :
    let m := run {} moves
    ∀ g ∈ k.gates, ∃ x, m.world.gates g = some x ∧
      ((x.state = .running ∧ ∀ p, m.world.issuer p = none → m.signal ≠ .aborted →
          step m (.call (.acquire g p)) = ⟨m.world.letIn g x p, m.stack, .replied .done⟩) ∨
        (x.state ≠ .running ∧ ∃ pre, pre ++ [.call (.addGate c g)] <+: moves ∧
          RunningFrom c k.version pre moves ∧
          ∃ k₀, (run {} pre).world.coordinators c = some k₀ ∧ g ∉ k₀.gates ∧
            (run {} pre).world.Shut g)) := by
  intro m g hg
  obtain ⟨x, hx⟩ := ((run_sound moves).coordinators c k hk).known g hg
  refine ⟨x, hx, ?_⟩
  by_cases hr : x.state = .running
  · exact .inl ⟨hr, fun p hp ha => step_acquire_open hx hr hp ha⟩
  · exact .inr ⟨hr, added_of_shut h hk hl hs hg ⟨x, hx, hr⟩⟩

/-- A gate that was registered all along is open after the resume. One that was unregistered while its
coordinator was suspended, and is added only then, is still closed. -/
theorem running_open_readded :
    let c : CoordinatorId := ⟨0⟩
    let f : GateId := ⟨⟨0, by decide⟩⟩
    let g : GateId := ⟨⟨1, by decide⟩⟩
    let p : PermitId := ⟨⟨2, by decide⟩⟩
    let moves : List Move := [.call (.newCoordinator c), .call (.registerGate c f "a"),
      .call (.registerGate c g "b"), .call (.suspend c), .call (.removeGate c g), .call (.resume c)]
    let moves' := moves ++ [.call (.addGate c g)]
    ∃ k x y, (run {} moves').world.coordinators c = some k ∧ k.isAlive = true ∧
      k.state = .running ∧ k.gates = [f, g] ∧ (run {} moves').world.gates f = some x ∧
      x.state = .running ∧
      step (run {} moves') (.call (.acquire f p)) =
        ⟨(run {} moves').world.letIn f x p, (run {} moves').stack, .replied .done⟩ ∧
      (run {} moves').world.gates g = some y ∧ y.state ≠ .running ∧
      ∃ pre, pre ++ [.call (.addGate c g)] <+: moves' ∧ RunningFrom c k.version pre moves' ∧
        (run {} pre).world.Shut g := by
  intro c f g p moves moves'
  have hd : Driven {} moves := ⟨orderly_call nofun nofun rfl nofun, orderly_call nofun nofun rfl nofun,
    orderly_call nofun nofun rfl nofun, orderly_call nofun nofun rfl nofun,
    orderly_call nofun nofun rfl nofun, orderly_call nofun nofun rfl nofun, trivial⟩
  have hsole : (run {} moves).world.Sole c g := by
    intro d k hk _ _
    by_contra hne
    have hnone : (run {} moves).world.coordinators d = none := by
      repeat refine (if_neg hne).trans ?_
      rfl
    cases hnone.symm.trans hk
  have h : Driven {} moves' := by
    refine driven_snoc.2 ⟨hd, orderly_call nofun nofun rfl ?_⟩
    rintro _ _ ⟨⟩
    exact hsole
  have hk : (run {} moves').world.coordinators c =
      some { generation := 2, gates := [f, g], version := 3 } := by decide +kernel
  have hf : (run {} moves').world.gates f = some { name := "a" } := by decide +kernel
  have hg : (run {} moves').world.gates g = some { name := "b", state := .drained } := by
    decide +kernel
  have hp : (run {} moves').world.issuer p = none := by decide +kernel
  have ha : (run {} moves').signal ≠ .aborted := by decide +kernel
  have hopen := running_open h hk rfl rfl
  obtain ⟨x, hx, hcase⟩ := hopen f (by decide)
  obtain ⟨y, hy, hcase'⟩ := hopen g (by decide)
  obtain rfl := Option.some.inj (hf.symm.trans hx)
  obtain rfl := Option.some.inj (hg.symm.trans hy)
  rcases hcase with ⟨hs, hin⟩ | ⟨hc, -⟩
  swap
  · exact absurd rfl hc
  rcases hcase' with ⟨hs', -⟩ | ⟨hc, pre, hpre, hfrom, -, -, -, hshut⟩
  · cases hs'
  · exact ⟨_, _, _, hk, rfl, rfl, rfl, hf, hs, hin p hp ha, hg, hc, pre, hpre, hfrom, hshut⟩

/-- **A gate can stay closed under a running coordinator**: closed by a suspend and unregistered, it
misses the resume, and when it is added again nobody opens it. Work is turned away there. -/
theorem running_shut :
    let c : CoordinatorId := ⟨0⟩
    let g : GateId := ⟨⟨0, by decide⟩⟩
    let p : PermitId := ⟨⟨1, by decide⟩⟩
    let moves : List Move := [.call (.newCoordinator c), .call (.registerGate c g "http"),
      .call (.suspend c), .call (.removeGate c g), .call (.resume c), .call (.addGate c g)]
    Driven {} moves ∧ (run {} moves).stack = [] ∧ (run {} moves).signal = .replied .done ∧
      ∃ k x, (run {} moves).world.coordinators c = some k ∧ k.isAlive = true ∧ k.state = .running ∧
        g ∈ k.gates ∧ (run {} moves).world.gates g = some x ∧ x.state = .drained ∧
        (step (run {} moves) (.call (.acquire g p))).signal =
          .replied (.refused (.draining "http")) := by
  intro c g p moves
  have hsole : (run {} (moves.take 5)).world.Sole c g := by
    intro d k hk _ _
    by_contra hne
    have hnone : (run {} (moves.take 5)).world.coordinators d = none := by
      repeat refine (if_neg hne).trans ?_
      rfl
    cases hnone.symm.trans hk
  have hd : Driven {} moves := by
    refine ⟨orderly_call nofun nofun rfl nofun, orderly_call nofun nofun rfl nofun,
      orderly_call nofun nofun rfl nofun, orderly_call nofun nofun rfl nofun,
      orderly_call nofun nofun rfl nofun, orderly_call nofun nofun rfl ?_, trivial⟩
    rintro _ _ ⟨⟩
    exact hsole
  have hk : (run {} moves).world.coordinators c =
      some { generation := 2, gates := [g], version := 3 } := by decide +kernel
  have hg : (run {} moves).world.gates g = some { name := "http", state := .drained } := by
    decide +kernel
  have hrefused : (step (run {} moves) (.call (.acquire g p))).signal =
      .replied (.refused (.draining "http")) := by decide +kernel
  exact ⟨hd, by decide +kernel, by decide +kernel, _, _, hk, rfl, rfl, List.mem_singleton_self _, hg,
    rfl, hrefused⟩

end Runs

end Machine

end Sluice
