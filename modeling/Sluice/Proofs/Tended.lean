import Sluice.Proofs.Deed

/-!
# Gates that are left to their coordinators

* `Attends`: how a coordinator stands to one of its gates. Unless it is running it has the gate closed;
  while it suspends it waits for the gate just if work is in flight there, and then the gate reports to
  it.
* `World.Tended`: the world is sound, no gate has two coordinators that somebody holds, and each of
  these attends its gates.
* `Driven`: the runs all of whose moves are orderly. `run_tended`: **they keep the world tended**.
-/

namespace Sluice

/-! ## A coordinator and one of its gates -/

/-- How a coordinator stands to one of its gates. -/
structure Attends (c : CoordinatorId) (k : Coordinator) (g : GateId) (x : Gate) : Prop where
  closed : k.state ≠ .running → x.state ≠ .running
  waits : ∀ p, k.pending = some p → (p.waitsFor g = true ↔ 0 < x.outstanding)
  reports : ∀ p, k.pending = some p → 0 < x.outstanding →
    x.callback = some (.report c k.generation)

section Attends

variable {c : CoordinatorId} {k k' : Coordinator} {f g : GateId} {x : Gate} {date : String}

theorem Attends.alike (h : Attends c k g x) (ha : k.Alike k') : Attends c k' g x := by
  obtain ⟨_, _, _, _, rfl⟩ := ha
  exact ⟨h.closed, h.waits, h.reports⟩

theorem attends_of_pending_eq_none (hp : k.pending = none)
    (hc : k.state ≠ .running → x.state ≠ .running) : Attends c k g x :=
  ⟨hc, fun _ h => (nomatch hp.symm.trans h), fun _ h => (nomatch hp.symm.trans h)⟩

/-- What is done to one gate does not concern another. -/
theorem Attends.struck (h : Attends c k f x) (hs : ∀ p, k.pending = some p → k.state ≠ .running)
    (hf : f ≠ g) : Attends c (k.struck g date) f x := by
  refine ⟨fun hne => ?_, fun q hq => ?_, fun q hq hpos => ?_⟩
  · rcases Coordinator.struck_cases k g date with ⟨p, e⟩ | ⟨-, p, hp, -⟩
    · rw [e] at hne
      exact h.closed hne
    · exact h.closed (hs p hp)
  · obtain ⟨p, hp, -, hw⟩ := Coordinator.struck_pending k g date hq
    rw [hw f, ← h.waits p hp]
    exact ⟨And.left, fun hpf => ⟨hpf, hf⟩⟩
  · obtain ⟨p, hp, -⟩ := Coordinator.struck_pending k g date hq
    rw [Coordinator.struck_generation]
    exact h.reports p hp hpos

/-- A gate that is closed and idle is attended once it is struck. -/
theorem attends_struck (hc : x.state ≠ .running) (h0 : x.outstanding = 0) :
    Attends c (k.struck g date) g x := by
  refine ⟨fun _ => hc, fun q hq => ⟨fun hw => ?_, fun hpos => by omega⟩, fun q _ hpos => by omega⟩
  obtain ⟨p, -, -, hiff⟩ := Coordinator.struck_pending k g date hq
  exact absurd rfl ((hiff g).1 hw).2

/-- One gate more does not concern the others. -/
theorem Attends.joined (h : Attends c k f x) (hf : f ≠ g) (name : String) (busy : Bool) :
    Attends c (k.joined g name busy) f x := by
  refine ⟨h.closed, fun q hq => ?_, fun q hq => ?_⟩ <;>
    obtain ⟨p, hp, rfl⟩ := Option.map_eq_some_iff.1 hq
  · rw [← h.waits p hp]
    split
    · rw [Pending.waitsFor_add]
      exact or_iff_right hf
    · rfl
  · exact h.reports p hp

/-- A gate that was not waited for is attended once it is closed and, if it is busy, waited for. -/
theorem attends_joined (hx : 0 ≤ x.outstanding)
    (hw : ∀ p, k.pending = some p → p.waitsFor g ≠ true) :
    Attends c (k.joined g x.name (decide (x.outstanding ≠ 0))) g
      (x.beginDrain (.report c k.generation)) := by
  refine ⟨fun _ => Gate.beginDrain_closed x _, fun q hq => ?_, fun q _ hpos => ?_⟩
  · obtain ⟨p, hp, rfl⟩ := Option.map_eq_some_iff.1 hq
    rw [Gate.beginDrain_outstanding]
    by_cases h0 : x.outstanding = 0
    · simp [h0, hw p hp]
    · simp only [h0, ne_eq, not_false_eq_true, decide_true, if_true, Pending.waitsFor_add, true_or,
        true_iff]
      omega
  · rw [Gate.beginDrain_outstanding] at hpos
    exact Gate.beginDrain_callback x _ (by omega)

end Attends

namespace World

/-! ## Tended worlds -/

/-- Gates have at most one coordinator that somebody holds, and that one attends them. -/
structure Tended (w : World) : Prop where
  sound : w.Sound
  sole : ∀ c k g, w.coordinators c = some k → k.isAlive = true → g ∈ k.gates → w.Sole c g
  attended : ∀ c k g x, w.coordinators c = some k → k.isAlive = true → g ∈ k.gates →
    w.gates g = some x → Attends c k g x

variable {w w' : World} {c d : CoordinatorId} {k k' : Coordinator} {g : GateId} {x y : Gate}

theorem tended_new : Tended {} :=
  ⟨Machine.sound_new, fun c k g hk => by simp at hk, fun c k g x hk => by simp at hk⟩

/-- No coordinator has got a gate. -/
theorem Tended.follow (h : w.Tended) (hs : w'.Sound)
    (hf : ∀ c k', w'.coordinators c = some k' → k'.isAlive = true →
      ∃ k, w.coordinators c = some k ∧ k.isAlive = true ∧ k'.gates ⊆ k.gates ∧
        ∀ g ∈ k'.gates, ∀ x, w'.gates g = some x → Attends c k' g x) : w'.Tended := by
  refine ⟨hs, fun c k' g hk' hl' hg d l' hd' hdl' hg' => ?_, fun c k' g x hk' hl' hg hx => ?_⟩
  · obtain ⟨k, hk, hl, hsub, -⟩ := hf c k' hk' hl'
    obtain ⟨l, hd, hdl, hdsub, -⟩ := hf d l' hd' hdl'
    exact h.sole c k g hk hl (hsub hg) d l hd hdl (hdsub hg')
  · obtain ⟨k, -, -, -, ha⟩ := hf c k' hk' hl'
    exact ha g hg x hx

theorem Tended.alike (h : w.Tended) (ha : w.Alike w') (hw : w.Wanes w') : w'.Tended := by
  refine h.follow (h.sound.alike ha) fun c k' hk' hl' => ?_
  obtain ⟨k, hk, hkk⟩ := ha.coordinators c k' hk'
  obtain ⟨l, hl, hlive⟩ := hw c k' hk' hl'
  obtain rfl : l = k := Option.some.inj (hl.symm.trans hk)
  refine ⟨l, hk, hlive, ?_, fun g hg x hx => ?_⟩
  · obtain ⟨_, _, _, _, rfl⟩ := hkk
    exact List.Subset.refl _
  · refine (h.attended c l g x hk hlive ?_ (ha.gates ▸ hx)).alike hkk
    obtain ⟨_, _, _, _, rfl⟩ := hkk
    exact hg

/-- One gate has changed, in the eyes of its coordinator for the better. -/
theorem Tended.changeGate (h : w.Tended) (hs : w'.Sound) (hg : w'.gates = w.gates.set g y)
    (hc : w'.coordinators = w.coordinators)
    (ha : ∀ c k, w.coordinators c = some k → k.isAlive = true → g ∈ k.gates → Attends c k g y) :
    w'.Tended := by
  refine h.follow hs fun c k hk hl => ⟨k, hc ▸ hk, hl, List.Subset.refl _, fun f hf x hx => ?_⟩
  rw [hc] at hk
  rw [hg] at hx
  rcases Table.set_cases hx with ⟨rfl, rfl⟩ | ⟨-, hx⟩
  · exact ha c k hk hl hf
  · exact h.attended c k f x hk hl hf hx

/-- One coordinator has changed, and no gates but its own and those that nobody else has. -/
theorem Tended.changeCoordinator (h : w.Tended) (hs : w'.Sound)
    (hc : w'.coordinators = w.coordinators.set c k') (hown : ∀ g ∈ k'.gates, w.Sole c g)
    (hg : ∀ g, ¬ w.Sole c g → w'.gates g = w.gates g)
    (ha : ∀ g ∈ k'.gates, ∀ x, w'.gates g = some x → Attends c k' g x) : w'.Tended := by
  have hcases {d : CoordinatorId} {l : Coordinator} (hd : w'.coordinators d = some l) :
      (d = c ∧ l = k') ∨ (d ≠ c ∧ w.coordinators d = some l) := Table.set_cases (hc ▸ hd)
  refine ⟨hs, fun d l g hd hl hgl d' l' hd' hl' hgl' => ?_, fun d l g x hd hl hgl hx => ?_⟩
  · rcases hcases hd with ⟨rfl, rfl⟩ | ⟨hdc, hd⟩ <;> rcases hcases hd' with ⟨rfl, rfl⟩ | ⟨hdc', hd'⟩
    · rfl
    · exact absurd (hown g hgl d' l' hd' hl' hgl') hdc'
    · exact absurd (hown g hgl' d l hd hl hgl) hdc
    · exact h.sole d l g hd hl hgl d' l' hd' hl' hgl'
  · rcases hcases hd with ⟨rfl, rfl⟩ | ⟨hdc, hd⟩
    · exact ha g hgl x hx
    · -- the gate is another coordinator's, so it is as it was
      rw [hg g fun ho => hdc (ho d l hd hl hgl)] at hx
      exact h.attended d l g x hd hl hgl hx

theorem Tended.newCoordinator (h : w.Tended) (c : CoordinatorId) :
    (w.setCoordinator c {}).Tended :=
  h.changeCoordinator (h.sound.newCoordinator c) (setCoordinator_coordinators w c {})
    (fun g hg => by simp at hg) (fun _ _ => rfl) (fun g hg => by simp at hg)

theorem Tended.suspend (h : w.Tended) (hk : w.coordinators c = some k) (hl : k.isAlive = true)
    (hs : k.state = .running) : (w.suspend c k).Tended := by
  have hown (g : GateId) (hg : g ∈ k.gates) : w.Sole c g := h.sole c k g hk hl hg
  refine h.changeCoordinator (h.sound.suspend hk hs) (suspend_coordinators w c k)
    (fun g hg => hown g (by simpa using hg))
    (fun g hg => by rw [suspend_gates, if_neg (mt (hown g) hg)]) fun g hg y hy => ?_
  rw [Coordinator.suspendedWith_gates] at hg
  rw [suspend_gates, if_pos hg] at hy
  obtain ⟨x, hx, rfl⟩ := Option.map_eq_some_iff.1 hy
  have h0 := (h.sound.gates g x hx).outstanding_nonneg
  refine ⟨fun _ => Gate.beginDrain_closed x _, fun p hp => ?_, fun p hp hpos => ?_⟩
  · rw [Coordinator.suspendedWith_pending] at hp
    split at hp
    · cases hp
    · cases hp
      rw [Pending.waitsFor_iff, Gate.beginDrain_outstanding]
      -- the gates are counted before they are closed, which does not change the counts
      constructor
      · intro hm
        obtain ⟨⟨f, n⟩, hb, rfl⟩ := List.mem_map.1 hm
        obtain ⟨-, z, hz, hne, -⟩ := mem_busy.1 (show (f, n) ∈ w.busy k.gates from hb)
        cases hx.symm.trans hz
        omega
      · exact fun hpos => List.mem_map.2
          ⟨(g, x.name), mem_busy.2 ⟨hg, x, hx, by omega, rfl⟩, rfl⟩
  · rw [Gate.beginDrain_outstanding] at hpos
    rw [Gate.beginDrain_callback x _ (by omega), Coordinator.suspendedWith_generation]

theorem Tended.resume (h : w.Tended) (hk : w.coordinators c = some k) (hl : k.isAlive = true) :
    (w.resume c k).Tended := by
  have hown (g : GateId) (hg : g ∈ k.gates) : w.Sole c g := h.sole c k g hk hl hg
  exact h.changeCoordinator (h.sound.resume hk) (resume_coordinators w c k)
    (fun g hg => hown g (by simpa using hg))
    (fun g hg => by rw [resume_gates, if_neg (mt (hown g) hg)])
    fun _ _ _ _ => attends_of_pending_eq_none (by simp) fun hne => absurd rfl hne

theorem Tended.removeGate (h : w.Tended) (hk : w.coordinators c = some k) (hl : k.isAlive = true)
    (g : GateId) : (w.removeGate c k g).Tended := by
  set k₁ : Coordinator := { k with gates := k.gates.filter (· ≠ g) }
  have hgates : (w.removeGate c k g).gates = w.gates := strike_gates w c k₁ g
  have hmem : ∀ f ∈ (k₁.struck g w.date).gates, f ∈ k.gates ∧ f ≠ g := fun f hf => by
    simpa [k₁] using hf
  refine h.changeCoordinator (h.sound.removeGate hk g) (strike_coordinators w c k₁ g)
    (fun f hf => h.sole c k f hk hl (hmem f hf).1) (fun f _ => by rw [hgates]) fun f hf x hx => ?_
  have ha := h.attended c k f x hk hl (hmem f hf).1 (hgates ▸ hx)
  have ha₁ : Attends c k₁ f x := ⟨ha.closed, ha.waits, ha.reports⟩
  exact ha₁.struck (fun p hp => (h.sound.coordinators c k hk).sound.closed_of_pending hp) (hmem f hf).2

/-- A permit comes back, and no coordinator that waits for the gate is told. -/
theorem Tended.returned {p : PermitId} {callback : Option DrainCallback} (h : w.Tended)
    (hx : w.gates g = some x) (hr : x.release? p = some (y, callback))
    (hne : ∀ c k q, w.coordinators c = some k → k.isAlive = true → k.pending = some q →
      callback ≠ some (.report c q.generation)) : (w.setGate g y).Tended := by
  have hxs := h.sound.gates g x hx
  obtain ⟨hpos, hout, -, hname, -, hcase⟩ := Gate.release?_cases hxs hr
  refine h.changeGate (h.sound.changeGate hx (hxs.release hr) hname rfl rfl) rfl rfl ?_
  intro d l hd hdl hgl
  have ha := h.attended d l g x hd hdl hgl hx
  have hls := (h.sound.coordinators d l hd).sound
  rcases hcase with ⟨h1, hdrain, hys, -, hcb⟩ | ⟨hlast, hys, hycb, -⟩
  · -- the callback is of nobody that waits for the gate
    refine attends_of_pending_eq_none ?_ fun _ => by rw [hys]; decide
    by_contra hq
    obtain ⟨q, hq⟩ := Option.ne_none_iff_exists'.1 hq
    refine hne d l q hd hdl hq (hcb.trans ?_)
    rw [(hls.waits q hq).generation]
    exact ha.reports q hq hpos
  · -- a gate that is waited for has more permits out
    refine ⟨fun hne => hys ▸ ha.closed hne, fun q hq => ?_, fun q hq _ => hycb ▸ ha.reports q hq hpos⟩
    have hne1 : x.outstanding ≠ 1 := by
      intro h1
      exact ha.closed (hls.closed_of_pending hq) (hlast h1)
    rw [ha.waits q hq]
    omega

/-- The last permit of a gate comes back, and the coordinator that waits for it strikes it. -/
theorem Tended.reported {v : World} {p : PermitId} {q : Pending} (h : w.Tended)
    (hx : w.gates g = some x) (hr : x.release? p = some (y, some (.report c q.generation)))
    (hk : w.coordinators c = some k) (hl : k.isAlive = true) (hg : v.gates = w.gates.set g y)
    (hc : v.coordinators = w.coordinators) : (v.strike c k g).Tended := by
  have hxs := h.sound.gates g x hx
  obtain ⟨hpos, hout, -, hname, -, hcase⟩ := Gate.release?_cases hxs hr
  -- a callback is handed out with the last permit only
  obtain ⟨h1, hdrain, hys, hcb⟩ : x.outstanding = 1 ∧ x.state = .draining ∧ y.state = .drained ∧
      x.callback = some (.report c q.generation) := by
    rcases hcase with ⟨h1, hdrain, hys, -, hcb⟩ | ⟨-, -, -, hcb⟩
    · exact ⟨h1, hdrain, hys, hcb.symm⟩
    · cases hcb
  have hyc : y.state ≠ .running := by rw [hys]; decide
  have hvs : v.Sound := h.sound.changeGate hx (hxs.release hr) hname hg hc
  have hkv : v.coordinators c = some k := by rw [hc, hk]
  have hgates : (v.strike c k g).gates = w.gates.set g y := (strike_gates v c k g).trans hg
  refine h.follow (hvs.strike (hvs.coordinators c k hkv) g) fun d l hd hdl => ?_
  rw [strike_coordinators, hc] at hd
  rcases Table.set_cases hd with ⟨rfl, rfl⟩ | ⟨hdc, hdw⟩
  · refine ⟨k, hk, hl, by simp, fun f hf z hz => ?_⟩
    rw [hgates] at hz
    rcases Table.set_cases hz with ⟨rfl, rfl⟩ | ⟨hfg, hz⟩
    · exact attends_struck hyc (by omega)
    · rw [Coordinator.struck_gates] at hf
      exact (h.attended d k f z hk hl hf hz).struck
        (fun q hq => (h.sound.coordinators d k hk).sound.closed_of_pending hq) hfg
  · -- the gate may be another coordinator's by now, which then does not wait for it
    refine ⟨l, hdw, hdl, List.Subset.refl _, fun f hf z hz => ?_⟩
    rw [hgates] at hz
    rcases Table.set_cases hz with ⟨rfl, rfl⟩ | ⟨-, hz⟩
    · -- if it did, its own callback would be there
      refine attends_of_pending_eq_none ?_ fun _ => hyc
      by_contra hq'
      obtain ⟨q', hq'⟩ := Option.ne_none_iff_exists'.1 hq'
      have hcb' := (h.attended d l f x hdw hdl hf hx).reports q' hq' hpos
      have he := hcb.symm.trans hcb'
      simp only [Option.some.injEq, DrainCallback.report.injEq] at he
      exact hdc he.1.symm
    · exact h.attended d l f z hdw hdl hf hz

theorem Tended.newGate (h : w.Tended) (hg : w.gates g = none) (name : String) :
    (w.setGate g { name }).Tended := by
  refine h.changeGate (h.sound.newGate hg name) rfl rfl fun c k hk _ hm => ?_
  -- a gate that nobody has made is nobody's
  obtain ⟨x, hx⟩ := (h.sound.coordinators c k hk).known g hm
  cases hg.symm.trans hx

theorem Tended.addGate (h : w.Tended) (hk : w.coordinators c = some k) (hl : k.isAlive = true)
    (hx : w.gates g = some x) (ho : w.Sole c g) : (w.addGate c k g x).Tended := by
  by_cases hg : g ∈ k.gates
  · rw [addGate_of_mem hg]
    exact h.alike (alike_note _ _) (wanes_note _ _)
  have hks := (h.sound.coordinators c k hk).sound
  have hgates := addGate_gates (w := w) (c := c) (x := x) hg
  have hother (f : GateId) (hne : f ≠ g) : (w.addGate c k g x).gates f = w.gates f := by
    rw [hgates]
    split
    · rfl
    · exact Table.set_of_ne _ _ hne
  refine h.changeCoordinator (h.sound.addGate hk hx) (addGate_coordinators hg hks)
    (fun f hf => ?_) (fun f hf => hother f fun hfg => hf (hfg ▸ ho)) fun f hf y hy => ?_
  · rcases List.mem_append.1 hf with hf | hf
    · exact h.sole c k f hk hl hf
    · exact List.mem_singleton.1 hf ▸ ho
  rcases List.mem_append.1 hf with hf | hf
  · -- a gate that was registered before
    have hne : f ≠ g := fun hfg => hg (hfg ▸ hf)
    exact (h.attended c k f y hk hl hf (hother f hne ▸ hy)).joined hne _ _
  obtain rfl := List.mem_singleton.1 hf
  rw [hgates] at hy
  split at hy
  · -- a running coordinator leaves it as it is
    rename_i hs
    exact attends_of_pending_eq_none (by simp [Coordinator.joined, hks.pending_of_running hs])
      fun hne => absurd hs hne
  · rw [Table.set_self] at hy
    cases hy
    exact attends_joined (h.sound.gates f x hx).outstanding_nonneg
      fun p hp hw => hg ((hks.waits p hp).registered f hw)

end World

namespace Machine

open World

variable {w₀ w w' : World} {move : Move}

/-- **A deed keeps the world tended.** -/
theorem Deed.tended (h : w.Tended) (hd : Deed w₀ move w w') : w'.Tended := by
  cases hd with
  | nothing => exact h
  | gateMade hg => exact h.newGate hg _
  | @letIn w g x p hx hop =>
    refine h.changeGate (h.sound.changeGate hx ((h.sound.gates g x hx).letIn hop) rfl rfl rfl) rfl rfl ?_
    intro c k hk hl hgk
    -- an open gate is one of a running coordinator
    have hr : k.state = .running := by
      by_contra hne
      exact (h.attended c k g x hk hl hgk hx).closed hne (of_decide_eq_true hop)
    have hp := (h.sound.coordinators c k hk).sound.pending_of_running hr
    exact attends_of_pending_eq_none hp fun hne => absurd hr hne
  | returned hx hr hne => exact h.returned hx hr hne
  | reported hx hr hk hl _ hg hc => exact h.reported hx hr hk hl hg hc
  | coordinatorMade _ => exact h.newCoordinator _
  | suspended hk hl hs => exact h.suspend hk hl hs
  | resumed _ hk hl => exact h.resume hk hl
  | gateAdded _ hk hl hx ho => exact h.addGate hk hl hx ho
  | gateRegistered hk hl hg =>
    refine (h.newGate hg _).addGate hk hl (Table.set_self _ _ _) fun d l hd _ hgl => ?_
    obtain ⟨x, hx⟩ := (h.sound.coordinators d l hd).known _ hgl
    cases hg.symm.trans hx
  | gateRemoved hk hl => exact h.removeGate hk hl _

theorem Change.tended {a b : Scene} (ho : Orderly w₀ move) (hab : Change w₀ move a b)
    (h : a.1.Tended) : b.1.Tended := by
  obtain ⟨v, hd, ha, hw⟩ := hab.deed ho h.sound
  exact (hd.tended h).alike ha hw

/-! ## Driven runs -/

/-- Every move is orderly in the world in which it is made. -/
def Driven (m : Machine) : List Move → Prop
  | [] => True
  | move :: moves => Orderly m.world move ∧ Driven (step m move) moves

theorem driven_append {m : Machine} {moves more : List Move} :
    Driven m (moves ++ more) ↔ Driven m moves ∧ Driven (run m moves) more := by
  induction moves generalizing m with
  | nil => exact (and_iff_right trivial).symm
  | cons move moves ih => rw [List.cons_append, Driven, Driven, ih, and_assoc]; rfl

theorem driven_snoc {m : Machine} {moves : List Move} {move : Move} :
    Driven m (moves ++ [move]) ↔ Driven m moves ∧ Orderly (run m moves).world move := by
  rw [driven_append]
  exact and_congr_right fun _ => and_iff_left trivial

theorem step_tended {m : Machine} (h : m.world.Tended) (ho : Orderly m.world move) :
    (step m move).world.Tended :=
  (step_changes m move).keep (P := fun a => a.1.Tended) (fun _ _ hab => hab.tended ho) h

/-- **Driven runs keep the world tended.** -/
theorem run_tended {moves : List Move} (h : Driven {} moves) : (run {} moves).world.Tended := by
  induction moves using List.reverseRecOn with
  | nil => exact tended_new
  | append_singleton moves move ih =>
    obtain ⟨hd, ho⟩ := driven_snoc.1 h
    rw [run_snoc]
    exact step_tended (ih hd) ho

end Machine

end Sluice
