import Mathlib.Data.List.Nodup
import Sluice.Proofs.Attempt

/-!
# Suspends are exact and let no work through

Both statements are about driven runs: code leaves the gates to their coordinators, calls only
coordinators that somebody holds, and adds a gate to one of them at a time.

* `World.Busy`: work is in flight at a gate.
* `suspend_exact`: **a suspend waits for the busy gates, neither more nor fewer**, and is complete with
  the move after which there is none.
* `suspend_quiet`: **while a coordinator is not running its gates let nothing in**, they are idle when
  the suspend is complete, and what is in flight afterwards came with a gate that was added busy.
-/

namespace Sluice

/-- Work is in flight at a gate. -/
def World.Busy (w : World) (g : GateId) : Prop := ∃ x, w.gates g = some x ∧ 0 < x.outstanding

namespace World

variable {w : World} {c : CoordinatorId} {k : Coordinator} {p : Pending}

/-- The names that a drain would show are those of the busy gates. -/
theorem map_busy (h : w.Sound) (gs : List GateId) :
    (w.busy gs).map Prod.snd =
      ((gs.filterMap w.gates).filterMap fun x =>
        if 0 < x.outstanding then some (x.name, x.outstanding) else none).map Prod.fst := by
  induction gs with
  | nil => rfl
  | cons g gs ih =>
    unfold busy at ih ⊢
    rw [List.filterMap_cons, List.filterMap_cons]
    cases hx : w.gates g with
    | none => exact ih
    | some x =>
      have h0 := (h.gates g x hx).outstanding_nonneg
      rw [List.filterMap_cons, Option.bind_some]
      by_cases hz : x.outstanding = 0
      · rw [if_pos hz, if_neg (by omega)]
        exact ih
      · rw [if_neg hz, if_pos (by omega)]
        exact congrArg (x.name :: ·) ih

theorem Tended.waits_iff (h : w.Tended) (hk : w.coordinators c = some k) (hl : k.isAlive = true)
    (hp : k.pending = some p) (g : GateId) : p.waitsFor g = true ↔ g ∈ k.gates ∧ w.Busy g := by
  have hf := h.sound.coordinators c k hk
  constructor
  · intro hw
    have hg := (hf.sound.waits p hp).registered g hw
    obtain ⟨x, hx⟩ := hf.known g hg
    exact ⟨hg, x, hx, ((h.attended c k g x hk hl hg hx).waits p hp).1 hw⟩
  · rintro ⟨hg, x, hx, hpos⟩
    exact ((h.attended c k g x hk hl hg hx).waits p hp).2 hpos

/-- The gates that a suspend waits for are the busy ones, with the names that they have. -/
theorem Tended.perm_busy (h : w.Tended) (hk : w.coordinators c = some k) (hl : k.isAlive = true)
    (hp : k.pending = some p) : p.gates.Perm (w.busy k.gates) := by
  have hf := h.sound.coordinators c k hk
  have hw := hf.sound.waits p hp
  have hnodup : p.gates.Nodup := List.Nodup.of_map Prod.fst hw.nodup
  have hnodup' : (w.busy k.gates).Nodup := List.Nodup.of_map Prod.fst (nodup_busy hf.sound.nodup)
  refine (List.perm_ext_iff_of_nodup hnodup hnodup').2 ?_
  rintro ⟨g, n⟩
  rw [mem_busy]
  constructor
  · intro hm
    obtain ⟨x, hx, hn⟩ := hf.named p g n hp hm
    obtain ⟨hg, y, hy, hpos⟩ := (h.waits_iff hk hl hp g).1
      (Pending.waitsFor_iff.2 (List.mem_map_of_mem hm))
    cases hx.symm.trans hy
    exact ⟨hg, x, hx, by omega, hn⟩
  · rintro ⟨hg, x, hx, h0, rfl⟩
    have hpos : 0 < x.outstanding := by
      have := (h.sound.gates g x hx).outstanding_nonneg
      omega
    have hm := Pending.waitsFor_iff.1 ((h.waits_iff hk hl hp g).2 ⟨hg, x, hx, hpos⟩)
    obtain ⟨⟨g', n⟩, hin, rfl⟩ := List.mem_map.1 hm
    obtain ⟨y, hy, hn⟩ := hf.named p g' n hp hin
    cases hx.symm.trans hy
    rwa [hn]

/-- The order in which names are put depends only on the names. -/
theorem mergeSort_eq_of_perm {l l' : List String} (h : l.Perm l') :
    (l.mergeSort fun a b => decide (a ≤ b)) = l'.mergeSort fun a b => decide (a ≤ b) := by
  have hsorted (l : List String) :
      (l.mergeSort fun a b => decide (a ≤ b)).Pairwise fun a b => decide (a ≤ b) = true := by
    refine List.pairwise_mergeSort ?_ ?_ l
    · intro a b c hab hbc
      simp only [decide_eq_true_eq] at hab hbc ⊢
      exact String.le_trans hab hbc
    · intro a b
      simpa using String.le_total a b
  refine List.Perm.eq_of_pairwise ?_ (hsorted l) (hsorted l')
    ((List.mergeSort_perm l _).trans (h.trans (List.mergeSort_perm l' _).symm))
  intro a b _ _ hab hba
  simp only [decide_eq_true_eq] at hab hba
  exact String.le_antisymm hab hba

end World

namespace Machine

open World
open scoped List

variable {moves : List Move} {c : CoordinatorId} {k : Coordinator}

/-- **A suspend is exact.** A coordinator that suspends waits for those of its gates at which work is in
flight, for at least one, and shows their names in order. The next move completes the suspend if no
gate is busy after it, and only then, unless the move is a call that resumes the coordinator. -/
theorem suspend_exact (h : Driven {} moves) (hk : (run {} moves).world.coordinators c = some k)
    (hl : k.isAlive = true) (hs : k.state = .suspending) :
    let m := run {} moves
    (∃ p, k.pending = some p ∧ p.gates ≠ [] ∧
      ∀ g, p.waitsFor g = true ↔ g ∈ k.gates ∧ m.world.Busy g) ∧
    (m.world.snapshot k).pending =
      ((m.world.outstandingGates k).map Prod.fst).mergeSort (fun a b => decide (a ≤ b)) ∧
    ∀ move, Orderly m.world move → ∀ k', (step m move).world.coordinators c = some k' →
      k'.isAlive = true → move.Resumes m.world c ∨
        (k'.generation = k.generation ∧ k'.state ≠ .running ∧
          (k'.state = .suspended ↔ ∀ g ∈ k'.gates, ¬ (step m move).world.Busy g)) := by
  intro m
  have ht : m.world.Tended := run_tended h
  have hf := ht.sound.coordinators c k hk
  obtain ⟨p, hp⟩ := hf.sound.exists_pending hs
  refine ⟨⟨p, hp, (hf.sound.waits p hp).ne_nil, ht.waits_iff hk hl hp⟩, ?_, ?_⟩
  · have hnames : (p.gates.map Prod.snd).Perm ((m.world.outstandingGates k).map Prod.fst) := by
      unfold outstandingGates
      rw [← map_busy ht.sound]
      exact (ht.perm_busy hk hl hp).map _
    unfold snapshot Coordinator.pendingNames
    rw [hp]
    exact mergeSort_eq_of_perm hnames
  intro move ho k' hk' hl'
  by_cases hm : move.Resumes m.world c
  · exact .inl hm
  have hc := step_continues ht ho hk' hl'
  have ht' : (step m move).world.Tended := step_tended ht ho
  -- without a resume the attempt goes on under its generation
  obtain ⟨hn, hne, -⟩ := hc.attempt k hk (by rw [hs]; decide) hm
  refine .inr ⟨hn, hne, fun hs' g hg => ?_, fun hidle => ?_⟩
  · -- work at a suspended coordinator would have been there when it was suspended before
    rintro ⟨x, hx, hpos⟩
    obtain ⟨k₀, -, hk₀, hs₀, -⟩ := hc.work hs' g hg x hx hpos
    cases hk.symm.trans hk₀
    rw [hs] at hs₀
    cases hs₀
  · -- a suspend that goes on waits for a gate, and that one is busy
    by_contra hs'
    have hsusp : k'.state = .suspending := by
      cases hst : k'.state with
      | running => exact absurd hst hne
      | suspending => rfl
      | suspended => exact absurd hst hs'
    have hf' := ht'.sound.coordinators c k' hk'
    obtain ⟨q, hq⟩ := hf'.sound.exists_pending hsusp
    obtain ⟨⟨g, n⟩, hm⟩ := List.exists_mem_of_ne_nil _ (hf'.sound.waits q hq).ne_nil
    obtain ⟨hg, hb⟩ := (ht'.waits_iff hk' hl' hq g).1
      (Pending.waitsFor_iff.2 (List.mem_map_of_mem hm))
    exact hidle g hg hb

/-- A coordinator waits for its only gate, and the permit that comes back there completes the suspend. -/
theorem suspend_exact_release :
    let c : CoordinatorId := ⟨0⟩
    let p : Permit := ⟨⟨⟨1, by decide⟩⟩, ⟨⟨0, by decide⟩⟩⟩
    let moves : List Move := [.call (.newCoordinator c), .call (.registerGate c p.gate "a"),
      .call (.acquire p.gate p.id), .call (.suspend c)]
    let m := run {} moves
    ∃ k k', m.world.coordinators c = some k ∧ k.isAlive = true ∧ k.state = .suspending ∧
      (∃ q, k.pending = some q ∧ q.gates ≠ [] ∧
        ∀ g, q.waitsFor g = true ↔ g ∈ k.gates ∧ m.world.Busy g) ∧
      (step m (.call (.release p))).world.coordinators c = some k' ∧ k'.isAlive = true ∧
      k'.generation = k.generation ∧
      (k'.state = .suspended ↔ ∀ g ∈ k'.gates, ¬ (step m (.call (.release p))).world.Busy g) := by
  intro c p moves m
  have h : Driven {} moves := ⟨orderly_call nofun nofun rfl nofun, orderly_call nofun nofun rfl nofun,
    orderly_call nofun nofun rfl nofun, orderly_call nofun nofun rfl nofun, trivial⟩
  have ho : Orderly m.world (.call (.release p)) := orderly_call nofun nofun rfl nofun
  obtain ⟨hwaits, -, hstep⟩ := suspend_exact (c := c) h rfl rfl rfl
  rcases hstep _ ho _ rfl rfl with ⟨_, hop, hc, -⟩ | ⟨hn, -, hiff⟩
  · cases hop
    cases hc
  · exact ⟨_, _, rfl, rfl, rfl, hwaits, rfl, rfl, hn, hiff⟩

/-- A gate that is not open turns work away, and nothing else happens. -/
theorem step_acquire {m : Machine} {g : GateId} {x : Gate} {p : PermitId} (h : m.world.Sound)
    (hx : m.world.gates g = some x) (hc : x.state ≠ .running) (hp : m.world.issuer p = none)
    (ha : m.signal ≠ .aborted) :
    step m (.call (.acquire g p)) = ⟨m.world, m.stack, .replied (.refused (.draining x.name))⟩ := by
  unfold step
  rw [if_neg ha]
  simp only [perform, acquire, hx, hp, Gate.isOpen, hc, decide_false, Bool.false_eq_true, if_false]
  rw [turnAway_eq hx (h.gates g x hx)]
  rfl

/-- A coordinator is suspended from the end of one run to the end of a longer one, and makes no
transition in between. -/
def SuspendedFrom (c : CoordinatorId) (version : Nat) (pre moves : List Move) : Prop :=
  ∀ mid, pre <+: mid → mid <+: moves →
    ∃ k, (run {} mid).world.coordinators c = some k ∧ k.state = .suspended ∧ k.version = version

/-- Work in flight at a suspended coordinator came with a gate that was added since. -/
theorem added_of_busy (h : Driven {} moves) (hk : (run {} moves).world.coordinators c = some k)
    (hl : k.isAlive = true) (hs : k.state = .suspended) {g : GateId} {x : Gate} (hg : g ∈ k.gates)
    (hx : (run {} moves).world.gates g = some x) (hpos : 0 < x.outstanding) :
    ∃ pre, pre ++ [.call (.addGate c g)] <+: moves ∧ SuspendedFrom c k.version pre moves ∧
      ∃ k₀ x₀, (run {} pre).world.coordinators c = some k₀ ∧ g ∉ k₀.gates ∧
        (run {} pre).world.gates g = some x₀ ∧ 0 < x₀.outstanding ∧
        x.permits.Sublist x₀.permits := by
  -- back to the move before which the gate was not registered; until then all was as it is
  induction moves using List.reverseRecOn generalizing k x with
  | nil => cases hk
  | append_singleton moves move ih =>
    obtain ⟨hd, ho⟩ := driven_snoc.1 h
    have hsound := run_sound (moves ++ [move])
    have hk' : (step (run {} moves) move).world.coordinators c = some k := by rwa [← run_snoc]
    have hx' : (step (run {} moves) move).world.gates g = some x := by rwa [← run_snoc]
    have hc := step_continues (run_tended hd) ho hk' hl
    obtain ⟨k₀, x₀, hk₀, hs₀, hv₀, hx₀, hsub, hg₀⟩ := hc.work hs g hg x hx' hpos
    -- a permit that is out now was out before
    have hpos₀ : 0 < x₀.outstanding := by
      have hle := hsub.length_le
      rw [(hsound.gates g x hx).count] at hpos
      rw [((run_sound moves).gates g x₀ hx₀).count]
      omega
    have hfrom {pre : List Move} (hpre : SuspendedFrom c k₀.version pre moves) :
        SuspendedFrom c k.version pre (moves ++ [move]) := by
      intro mid hmid hle
      rcases List.prefix_concat_iff.1 hle with rfl | hle
      · exact ⟨k, hk, hs, rfl⟩
      · obtain ⟨k₁, hk₁, hs₁, hv₁⟩ := hpre mid hmid hle
        exact ⟨k₁, hk₁, hs₁, hv₁.trans hv₀⟩
    by_cases hgk : g ∈ k₀.gates
    · -- it was registered before the last move, too
      obtain ⟨pre, hpre, hsusp, k₁, x₁, hk₁, hg₁, hx₁, hpos₁, hsub₁⟩ :=
        ih hd hk₀ (hc.alive k₀ hk₀) hs₀ hgk hx₀ hpos₀
      exact ⟨pre, hpre.trans (List.prefix_append _ _), hfrom hsusp, k₁, x₁, hk₁, hg₁, hx₁, hpos₁,
        hsub.trans hsub₁⟩
    · -- the last move has added it
      obtain rfl := hg₀.resolve_left hgk
      refine ⟨moves, List.prefix_refl _, hfrom fun mid hle hge => ?_, k₀, x₀, hk₀, hgk, hx₀, hpos₀,
        hsub⟩
      obtain rfl := hge.eq_of_length (Nat.le_antisymm hge.length_le hle.length_le)
      exact ⟨k₀, hk₀, hs₀, rfl⟩

/-- **A suspend lets no work through.** Each gate of a coordinator that is not running is closed and
refuses. If the last move made a transition to suspended, the gates are all drained. Any work that is in
flight at one later came with the gate, when this was added since that transition. -/
theorem suspend_quiet (h : Driven {} moves) (hk : (run {} moves).world.coordinators c = some k)
    (hl : k.isAlive = true) (hs : k.state ≠ .running) :
    let m := run {} moves
    (∀ g ∈ k.gates, ∃ x, m.world.gates g = some x ∧ x.state ≠ .running ∧
      ∀ p, m.world.issuer p = none → m.signal ≠ .aborted →
        step m (.call (.acquire g p)) =
          ⟨m.world, m.stack, .replied (.refused (.draining x.name))⟩) ∧
    (∀ pre move, moves = pre ++ [move] → k.state = .suspended →
      (∀ k₀, (run {} pre).world.coordinators c = some k₀ → k₀.version ≠ k.version) →
      ∀ g ∈ k.gates, ∃ x, m.world.gates g = some x ∧ x.state = .drained ∧ x.outstanding = 0) ∧
    (k.state = .suspended → ∀ g ∈ k.gates, ∀ x, m.world.gates g = some x → 0 < x.outstanding →
      ∃ pre, pre ++ [.call (.addGate c g)] <+: moves ∧ SuspendedFrom c k.version pre moves ∧
        ∃ k₀ x₀, (run {} pre).world.coordinators c = some k₀ ∧ g ∉ k₀.gates ∧
          (run {} pre).world.gates g = some x₀ ∧ 0 < x₀.outstanding ∧
          x.permits.Sublist x₀.permits) := by
  intro m
  have ht : m.world.Tended := run_tended h
  have hf := ht.sound.coordinators c k hk
  refine ⟨fun g hg => ?_, ?_, fun hsusp g hg x hx hpos => added_of_busy h hk hl hsusp hg hx hpos⟩
  · obtain ⟨x, hx⟩ := hf.known g hg
    have hc := (ht.attended c k g x hk hl hg hx).closed hs
    exact ⟨x, hx, hc, fun p hp ha => step_acquire ht.sound hx hc hp ha⟩
  · rintro pre move rfl hsusp hnew g hg
    obtain ⟨hd, ho⟩ := driven_snoc.1 h
    obtain ⟨x, hx⟩ := hf.known g hg
    have hxs := ht.sound.gates g x hx
    have hc := (ht.attended c k g x hk hl hg hx).closed hs
    have hm : m = step (run {} pre) move := run_snoc {} pre move
    have hkm : m.world.coordinators c = some k := hk
    have hcont := step_continues (run_tended hd) ho (hm ▸ hkm) hl
    -- work in flight would have been there before the transition, when the coordinator was suspended
    have hidle : x.outstanding = 0 := by
      by_contra h0
      have hpos : 0 < x.outstanding := by
        have := hxs.outstanding_nonneg
        omega
      obtain ⟨k₀, -, hk₀, -, hv, -⟩ := hcont.work hsusp g hg x (hm ▸ hx) hpos
      exact hnew k₀ hk₀ hv
    exact ⟨x, hx, hxs.drained_of_idle hc hidle, hidle⟩

/-- A gate that is added busy to a suspended coordinator stays busy. -/
theorem suspend_quiet_added :
    let c : CoordinatorId := ⟨0⟩
    let f : GateId := ⟨⟨0, by decide⟩⟩
    let g : GateId := ⟨⟨1, by decide⟩⟩
    let moves : List Move := [.call (.newCoordinator c), .call (.registerGate c f "a"),
      .call (.newGate g "b"), .call (.acquire g ⟨⟨2, by decide⟩⟩), .call (.suspend c)]
    let moves' := moves ++ [.call (.addGate c g)]
    ∃ k x, (run {} moves').world.coordinators c = some k ∧ k.isAlive = true ∧ k.state = .suspended ∧
      g ∈ k.gates ∧ (run {} moves').world.gates g = some x ∧ x.state ≠ .running ∧ 0 < x.outstanding ∧
      ∃ pre, pre ++ [.call (.addGate c g)] <+: moves' ∧ SuspendedFrom c k.version pre moves' := by
  intro c f g moves moves'
  have hd : Driven {} moves := ⟨orderly_call nofun nofun rfl nofun, orderly_call nofun nofun rfl nofun,
    orderly_call nofun nofun rfl nofun, orderly_call nofun nofun rfl nofun,
    orderly_call nofun nofun rfl nofun, trivial⟩
  have hsole : (run {} moves).world.Sole c g := by
    intro d k hk _ _
    by_contra hne
    have hnone : (run {} moves).world.coordinators d = none := by
      repeat refine (if_neg hne).trans ?_
      rfl
    cases hnone.symm.trans hk
  have h : Driven {} moves' := by
    refine driven_snoc.2 ⟨hd, orderly_call nofun nofun rfl ?_⟩
    rintro _ _ ⟨⟩
    exact hsole
  obtain ⟨hclosed, -, hadded⟩ := suspend_quiet (c := c) h rfl rfl nofun
  obtain ⟨x, hx, hc, -⟩ := hclosed g (by decide)
  cases hx
  obtain ⟨pre, hpre, hfrom, -⟩ := hadded rfl g (by decide) _ rfl (by decide)
  exact ⟨_, _, rfl, rfl, rfl, by decide, rfl, hc, by decide, pre, hpre, hfrom⟩

end Machine

end Sluice
