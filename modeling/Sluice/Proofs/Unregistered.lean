import Sluice.Proofs.Deed
import Sluice.Proofs.Paired

/-!
# A gate that is no longer registered

A gate that has been removed may still hold work, and keep the callback with which its coordinator closed it,
in this attempt or an earlier one.

* `Move.Registers`, `step_lacks`: **a coordinator gets no gate but by a call that registers it**.
* `Op.On`, `Op.On.avoids`: what is called on a gate, its permits and its tickets leaves alone a coordinator
  that does not have the gate.
* `Differ`: two runs that differ in moves that leave a coordinator alone. `Differ.agrees`: **they agree on
  it**.
* `unregistered_exact`: a gate that is removed **no longer influences its coordinator**.
-/

namespace Sluice

/-- The operation is called on this gate, or on a permit or a ticket of it. -/
inductive Op.On (g : GateId) : Op → Prop
  | acquire (p : PermitId) : On g (.acquire g p)
  | release {p : Permit} (hp : p.gate = g) : On g (.release p)
  | releaseVia {f : GateId} {p : Permit} (hp : p.gate = g) : On g (.releaseVia f p)
  | drop {p : Permit} (hp : p.gate = g) : On g (.drop p)
  | releaseTicket {f : GateId} {t : Ticket} (ht : t.gate = g) : On g (.releaseTicket f t)
  | beginDrain (code : CodeId) : On g (.beginDrain g code)
  | reopen : On g (.reopen g)

/-- **What is called on a gate that is left aside** leaves a coordinator alone. -/
theorem Op.On.avoids {g : GateId} {op : Op} (h : op.On g) {gs : Set GateId} (hg : g ∈ gs) (c : CoordinatorId)
    (ds : Set CoordinatorId) (w : World) : op.Avoids c gs ds w := by
  cases h with
  | acquire | beginDrain | reopen => exact hg
  | release hp | releaseVia hp | drop hp => simpa only [Op.Avoids, hp] using hg
  | releaseTicket ht => exact fun hf => hf ▸ ht.symm ▸ hg

namespace World

/-- The same is to be seen of a coordinator: its state, attempt, gates and version, what it waits for, what
its listeners have been told, and how its gates stand. -/
structure Matches (c : CoordinatorId) (w w' : World) : Prop where
  coordinator : w'.coordinators c = w.coordinators c
  history : w'.history c = w.history c
  gates : ∀ k, w.coordinators c = some k → ∀ g ∈ k.gates, w'.gates g = w.gates g
  snapshot : ∀ k, w.coordinators c = some k → w'.snapshot k = w.snapshot k

variable {w w' : World} {c : CoordinatorId} {gs : Set GateId} {ds : Set CoordinatorId}

theorem Lacks.alike (h : w.Lacks c gs) (ha : w.Alike w') : w'.Lacks c gs := by
  intro k' hk' f hf
  obtain ⟨k, hk, _, _, _, _, rfl⟩ := ha.coordinators c k' hk'
  exact h k hk f hf

theorem Lacks.addGate {d : CoordinatorId} {k : Coordinator} {g : GateId} (h : w.Lacks c gs)
    (hk : w.coordinators d = some k) (hks : k.Sound) (hg : d = c → g ∉ gs) (x : Gate) :
    (w.addGate d k g x).Lacks c gs := by
  by_cases hm : g ∈ k.gates
  · rw [addGate_of_mem hm]
    exact h
  intro l hl f hf
  rw [addGate_coordinators hm hks] at hl
  rcases Table.set_cases hl with ⟨rfl, rfl⟩ | ⟨-, hl⟩
  · rcases List.mem_append.1 hf with hf | hf
    · exact h k hk f hf
    · rw [List.mem_singleton.1 hf]
      exact hg rfl
  · exact h l hl f hf

theorem Agrees.lacks (h : w.Agrees c gs ds w') (hl : w.Lacks c gs) : w'.Lacks c gs :=
  fun k hk => hl k (h.coordinator ▸ hk)

theorem Agrees.matches (h : w.Agrees c gs ds w') (hl : w.Lacks c gs) : w.Matches c w' :=
  ⟨h.coordinator, h.history, fun k hk g hg => h.gates g (hl k hk g hg), fun k hk => h.snapshot_eq (hl k hk)⟩

end World

namespace Machine

open World

variable {w w' w₀ : World} {s : List Activation} {a b : Scene} {c : CoordinatorId} {g : GateId}
  {gs : Set GateId} {ds : Set CoordinatorId} {m : Machine} {move : Move} {k : Coordinator}

/-! ## Who has a gate -/

/-- The move is a call that registers this gate with this coordinator. -/
def Move.Registers (c : CoordinatorId) (g : GateId) (move : Move) : Prop :=
  move = .call (.addGate c g) ∨ ∃ name, move = .call (.registerGate c g name)

theorem fire_lacks (h : w.Lacks c gs) (callback : Option DrainCallback) (after : After) :
    (fire w s g callback after).world.Lacks c gs := by
  rcases fire_outcome w s g callback after with ⟨d, n, k, p, -, hk, -, -, -, ha, -⟩ | ⟨ha, -, -⟩
  · have hnoted : (w.note (.fired g (.report d n))).Lacks c gs := h
    exact (hnoted.strike hk g).alike ha
  · exact h.alike ha

theorem Change.lacks (hab : Change w₀ move a b) (hw : a.1.Sound) (hr : ∀ f, move.Registers c f → f ∉ gs)
    (h : a.1.Lacks c gs) : b.1.Lacks c gs := by
  cases hab with
  | gateMade | letIn | closed | reopened | declined | callbackLeft | handlerEntered | handlerLeft | alerted =>
    exact h
  | turnedAway hg _ =>
    rw [turnAway_eq hg (hw.gates _ _ hg)]
    exact fire_lacks h _ _
  | @returned w s g x p y callback after _ _ =>
    have hset : ((w.setGate g y).note (.returned g p)).Lacks c gs := h
    exact fire_lacks hset _ _
  | coordinatorMade hc =>
    intro l hl f hf
    rcases Table.set_cases hl with ⟨rfl, rfl⟩ | ⟨-, hl⟩
    · cases hf
    · exact h l hl f hf
  | suspended hk _ _ _ => exact (h.suspend hk).alike dispatch_alike
  | resumed _ hk _ _ => exact (h.resume hk).alike dispatch_alike
  | @gateAdded s d k g x hm hk hg _ _ =>
    refine h.addGate hk (hw.coordinators d k hk).sound (fun e => hr g (.inl ?_)) x
    rw [hm, e]
  | @gateRegistered w s d k g name hm hk hg _ =>
    have hset : (w.setGate g { name }).Lacks c gs := h
    refine hset.addGate hk (hw.coordinators d k hk).sound (fun e => hr g (.inr ⟨name, ?_⟩)) _
    rw [hm, e]
  | gateRemoved _ hk _ => exact (h.removeGate hk _).alike dispatch_alike
  | subscribed hk | unsubscribed hk =>
    exact h.alike ((alike_setCoordinator hk ⟨_, _, _, _, rfl⟩).trans (alike_note _ _))
  | shared hk _ | dropped hk => exact h.alike (alike_setCoordinator hk ⟨_, _, _, _, rfl⟩)
  | hookLeft => exact h.alike nextHook_alike
  | finished => exact h.alike (finish_rests _ _ _).alike
  | aside _ _ hc _ => exact fun l hl => h l (hc ▸ hl)

/-- **A coordinator gets no gate** but by a call that registers it. -/
theorem step_lacks (hw : m.world.Sound) (h : m.world.Lacks c gs) (hr : ∀ f, move.Registers c f → f ∉ gs) :
    (step m move).world.Lacks c gs :=
  ((step_changes m move).keep (P := fun a => a.1.Sound ∧ a.1.Lacks c gs)
    (fun _ _ hab ha => ⟨hab.sound ha.1, hab.lacks ha.1 hr ha.2⟩) ⟨hw, h⟩).2

theorem run_lacks (before : List Move) {moves : List Move} (h : (run {} before).world.Lacks c gs)
    (hr : ∀ move ∈ moves, ∀ f, move.Registers c f → f ∉ gs) :
    (run {} (before ++ moves)).world.Lacks c gs := by
  induction moves using List.reverseRecOn with
  | nil => rwa [List.append_nil]
  | append_singleton moves move ih =>
    rw [← List.append_assoc, run_snoc]
    exact step_lacks (run_sound _) (ih fun mv hmv => hr mv (List.mem_append_left _ hmv))
      (hr move (List.mem_append_right _ List.mem_cons_self))

/-- A gate that is removed is gone. -/
theorem removeGate_lacks (ha : m.signal ≠ .aborted) :
    (step m (.call (.removeGate c g))).world.Lacks c {g} := by
  unfold step
  rw [if_neg ha]
  simp only [perform, removeGate]
  split
  · rename_i hk
    intro l hl
    cases hk.symm.trans hl
  · rename_i k hk
    suffices hleft : (m.world.removeGate c k g).Lacks c {g} from hleft.alike dispatch_alike
    intro l hl f hf
    rw [World.removeGate, strike_coordinators, Table.set_self] at hl
    cases hl
    rw [Coordinator.struck_gates] at hf
    simpa using (List.mem_filter.1 hf).2

theorem run_fit (moves : List Move) (hl : (run {} moves).world.Lacks c gs) : Fit c gs (run {} moves) := by
  have hw := run_sound moves
  refine ⟨hw, run_staffed moves, ⟨fun d k hk => (hw.coordinators d k hk).sound, hl, fun k hk hd => ?_⟩,
    run_tidy moves⟩
  have hidle := (run_told moves c).idle
  rw [show (run {} moves).scene.1.coordinator c = k from coordinator_eq hk] at hidle
  exact hidle hd

/-! ## Two runs -/

/-- Two runs that begin alike. A move is made in one of them and leaves the coordinator alone, or is made in
both. -/
inductive Differ (c : CoordinatorId) (gs : Set GateId) (ds : Set CoordinatorId) (before : List Move) :
    List Move → List Move → Prop
  | start : Differ c gs ds before before before
  | first {ms₁ ms₂ move} (h : Differ c gs ds before ms₁ ms₂) (hm : move.Avoids c gs ds (run {} ms₁)) :
      Differ c gs ds before (ms₁ ++ [move]) ms₂
  | second {ms₁ ms₂ move} (h : Differ c gs ds before ms₁ ms₂) (hm : move.Avoids c gs ds (run {} ms₂)) :
      Differ c gs ds before ms₁ (ms₂ ++ [move])
  | both {ms₁ ms₂ move} (h : Differ c gs ds before ms₁ ms₂)
      (hm : move.Shared c gs ds (run {} ms₁) (run {} ms₂))
      (ha : (run {} ms₁).signal = .aborted ↔ (run {} ms₂).signal = .aborted) :
      Differ c gs ds before (ms₁ ++ [move]) (ms₂ ++ [move])

variable {before ms₁ ms₂ : List Move}

/-- No gate that is left aside is registered with the coordinator. -/
theorem Move.Shared.registers {m₁ m₂ : Machine} (h : move.Shared c gs ds m₁ m₂) {f : GateId}
    (hf : move.Registers c f) : f ∉ gs := by
  rcases hf with rfl | ⟨name, rfl⟩
  · exact h.2 rfl
  · exact h.2 rfl

/-- **Runs that differ** in moves that leave a coordinator alone agree on it. -/
theorem Differ.agrees (hc : c ∉ ds) (hb : (run {} before).world.Lacks c gs)
    (h : Differ c gs ds before ms₁ ms₂) :
    (run {} ms₁).world.Agrees c gs ds (run {} ms₂).world ∧ (run {} ms₁).world.Lacks c gs := by
  induction h with
  | start => exact ⟨.refl _, hb⟩
  | @first ms₁ ms₂ move _ hm ih =>
    obtain ⟨ha, hl⟩ := ih
    have hf := run_fit ms₁ hl
    have hstep := step_avoids hf.sound hf.ignores hc hf.tidy hm
    rw [run_snoc]
    exact ⟨hstep.symm.trans ha, hstep.lacks hl⟩
  | @second ms₁ ms₂ move _ hm ih =>
    obtain ⟨ha, hl⟩ := ih
    have hf := run_fit ms₂ (ha.lacks hl)
    rw [run_snoc]
    exact ⟨ha.trans (step_avoids hf.sound hf.ignores hc hf.tidy hm), hl⟩
  | @both ms₁ ms₂ move _ hm hab ih =>
    obtain ⟨ha, hl⟩ := ih
    rw [run_snoc, run_snoc]
    exact ⟨step_agrees ha (run_fit ms₁ hl) (run_fit ms₂ (ha.lacks hl)) hc hab hm,
      step_lacks (run_sound ms₁) hl fun f => hm.registers⟩

/-- Moves that leave the coordinator alone make a run that differs from the one without them. -/
theorem differ_of_avoids {moves : List Move}
    (h : ∀ pre move, pre ++ [move] <+: moves → move.Avoids c gs ds (run {} (before ++ pre))) :
    Differ c gs ds before (before ++ moves) before := by
  induction moves using List.reverseRecOn with
  | nil =>
    rw [List.append_nil]
    exact .start
  | append_singleton moves move ih =>
    rw [← List.append_assoc]
    refine .first (ih fun pre mv hmv => h pre mv (hmv.trans (List.prefix_append _ _))) ?_
    exact h moves move List.prefix_rfl

/-- **A gate that is removed no longer influences its coordinator** until it is added again, at whatever stage
of an attempt it was removed and whatever callback it has kept. What is called on the gate, its permits and its
tickets leaves the coordinator alone, and so does the code that this enters as long as it keeps off the
coordinator and its other gates. Such moves change nothing about the coordinator, and call no hook of it. Two
runs that differ in such moves show the same of it throughout: every other operation on it answers the same in
both and enters the same code. -/
theorem unregistered_exact (before between : List Move) {c : CoordinatorId} {g : GateId} {k : Coordinator}
    (hlive : (run {} before).signal ≠ .aborted) (hreg : ∀ move ∈ between, ¬ move.Registers c g)
    (hk : (run {} (before ++ .call (.removeGate c g) :: between)).world.coordinators c = some k) :
    let past := before ++ .call (.removeGate c g) :: between
    g ∉ k.gates ∧
    ∀ gs ds, g ∈ gs → (∀ f ∈ k.gates, f ∉ gs) → c ∉ ds →
      (∀ (op : Op) w, op.On g → op.Avoids c gs ds w) ∧
      (∀ moves, (∀ pre move, pre ++ [move] <+: moves → move.Avoids c gs ds (run {} (past ++ pre))) →
        (run {} past).world.Matches c (run {} (past ++ moves)).world) ∧
      ∀ ms₁ ms₂, Differ c gs ds past ms₁ ms₂ →
        let m₁ := run {} ms₁
        let m₂ := run {} ms₂
        m₁.world.Matches c m₂.world ∧
        ∀ move : Move, move.Concerns c m₁ → move.Shared c gs ds m₁ m₂ →
          m₁.signal ≠ .aborted → m₂.signal ≠ .aborted →
          (step m₂ move).signal = (step m₁ move).signal ∧
          ∃ entered, (step m₁ move).stack = entered ++ move.outer m₁.stack ∧
            (step m₂ move).stack = entered ++ move.outer m₂.stack := by
  intro past
  have hgone : (run {} past).world.Lacks c {g} := by
    have hremoved : (run {} (before ++ [.call (.removeGate c g)])).world.Lacks c {g} := by
      rw [run_snoc]
      exact removeGate_lacks hlive
    have hpast : past = before ++ [.call (.removeGate c g)] ++ between := by simp [past]
    rw [hpast]
    refine run_lacks _ hremoved fun move hm f hf hfg => hreg move hm ?_
    rwa [Set.mem_singleton_iff.1 hfg] at hf
  refine ⟨fun hg => hgone k hk g hg rfl, fun gs ds hg hgs hc => ?_⟩
  have hlacks : (run {} past).world.Lacks c gs := by
    intro l hl f hf
    cases hk.symm.trans hl
    exact hgs f hf
  refine ⟨fun op w hop => hop.avoids hg c ds w, fun moves hm => ?_, fun ms₁ ms₂ hd => ?_⟩
  · obtain ⟨ha, -⟩ := (differ_of_avoids hm).agrees hc hlacks
    exact ha.symm.matches hlacks
  · obtain ⟨ha, hl⟩ := hd.agrees hc hlacks
    refine ⟨ha.matches hl, fun move hcon hm h₁ h₂ => ?_⟩
    have hsame := step_same ha (run_fit ms₁ hl) (run_fit ms₂ (ha.lacks hl)) h₁ h₂ hcon hm
    exact ⟨hsame.signal, hsame.stack⟩

/-- A gate is removed while a suspend waits for it and for another. Its report comes late, in the same attempt.
The suspend is over when the other gate is drained, whether the report came or not. -/
theorem unregistered_exact_waiting :
    let c : CoordinatorId := ⟨0⟩
    let l : Listener := ⟨⟨0⟩, "l"⟩
    let p : Permit := ⟨⟨⟨1, by decide⟩⟩, ⟨⟨0, by decide⟩⟩⟩
    let q : Permit := ⟨⟨⟨2, by decide⟩⟩, ⟨⟨1, by decide⟩⟩⟩
    let before : List Move := [.call (.newCoordinator c), .call (.registerGate c p.gate "a"),
      .call (.registerGate c q.gate "b"), .call (.addListener c l fun _ => .accept),
      .call (.acquire p.gate p.id), .call (.acquire q.gate q.id), .call (.suspend c), .ret { status := 200 }]
    let past := before ++ [.call (.removeGate c p.gate)]
    let reported := run {} (past ++ [.call (.release p)] ++ [.call (.release q)])
    let unreported := run {} (past ++ [.call (.release q)])
    reported.world.Matches c unreported.world ∧
      (unreported.world.coordinator c).state = .suspended ∧
      (step reported (.ret { status := 200 })).signal = .replied .done ∧
      (step unreported (.ret { status := 200 })).signal = .replied .done := by
  intro c l p q before past reported unreported
  have hk : (run {} (before ++ [.call (.removeGate c p.gate)])).world.coordinators c =
      some ((run {} past).world.coordinator c) := by decide +kernel
  have hgates : ((run {} past).world.coordinator c).gates = [q.gate] := by decide +kernel
  obtain ⟨-, hsame⟩ := unregistered_exact before [] (by decide +kernel) nofun hk
  obtain ⟨-, -, hruns⟩ := hsame {p.gate} ∅ rfl (by rw [hgates]; decide) id
  have hdiffer : Differ c {p.gate} ∅ past (past ++ [.call (.release p)] ++ [.call (.release q)])
      (past ++ [.call (.release q)]) := .both (.first .start rfl) trivial (by decide +kernel)
  obtain ⟨hmatches, hanswers⟩ := hruns _ _ hdiffer
  -- in both the listener's hook comes back
  have hhook : reported.stack.head? = some (.hook c .suspendComplete l [] (.reply .done)) := by decide +kernel
  have hback := (hanswers (.ret { status := 200 }) ⟨_, _, _, _, hhook⟩
    ⟨by decide +kernel, fun a ha => by cases hhook.symm.trans ha; exact .inl rfl⟩ (by decide +kernel)
    (by decide +kernel)).1
  have hreplied : (step unreported (.ret { status := 200 })).signal = .replied .done := by decide +kernel
  exact ⟨hmatches, by decide +kernel, hback.symm.trans hreplied, hreplied⟩

end Machine

end Sluice
