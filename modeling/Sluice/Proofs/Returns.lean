import Sluice.Proofs.Accounts

/-!
# How permits come back

A permit may be given back by its holder, by a ticket, or through another gate, and may be let go of. The
first of these that reaches its gate succeeds, and callers' code may run before it answers. All others are
refused.

* `Op.givesBack?`: the operations that give a permit back, and at which gate.
* `Machine.Answers`: an operation has answered, or will once the code that it has entered comes back.
* `giveBack_settles`, `letGo_settles`: what becomes of a permit. `SameEffect`: to give a permit to the wrong
  gate does what it does to let go of it.
* `perform_sameCounts`: coordinators neither issue permits nor take them back.
* `accounting_exact`: the accounts after any run, and how permits come back from there.
-/

namespace Sluice

/-- The permit that an operation gives back, and the gate at which it does. -/
def Op.givesBack? : Op → Option (GateId × PermitId)
  | .release p => some (p.gate, p.id)
  | .releaseVia g p => if p.gate = g then some (g, p.id) else none
  | .releaseTicket g t => if t.gate = g then some (g, t.permit) else none
  | _ => none

/-- What a caller's code is to go on with, if it has been entered from an operation. -/
def Activation.after? : Activation → Option After
  | .callback _ _ after | .hook _ _ _ _ after => some after
  | .handler _ => none

/-- The code alone, whatever it is to go on with. -/
def Activation.code : Activation → Activation
  | .callback g code _ => .callback g code (.reply .done)
  | .hook c h l others _ => .hook c h l others (.reply .done)
  | .handler a => .handler a

namespace Machine

open World

/-- An operation has answered, or has entered code and will answer once that comes back. -/
def Answers (m : Machine) (s : List Activation) (r : Reply) : Prop :=
  (m.stack = s ∧ m.signal = .replied r) ∨
    ∃ a, m.stack = a :: s ∧ m.signal = .entered ∧ a.after? = some (.reply r)

/-- Nothing has happened to gates and coordinators, and no code has been entered. -/
structure Untouched (m m' : Machine) : Prop where
  gates : m'.world.gates = m.world.gates
  coordinators : m'.world.coordinators = m.world.coordinators
  stack : m'.stack = m.stack

/-- Gates and coordinators are the same, and so is the code that runs. -/
structure SameEffect (m m' : Machine) : Prop where
  gates : m'.world.gates = m.world.gates
  coordinators : m'.world.coordinators = m.world.coordinators
  code : m'.stack.map Activation.code = m.stack.map Activation.code

/-- A permit has come back to its gate, which counts one less. -/
structure TakenBack (m m' : Machine) (g : GateId) (x : Gate) (p : PermitId) : Prop where
  returned : .returned g p ∈ m'.world.journal
  gate : ∃ y cb, x.release? p = some (y, cb) ∧ y.outstanding = x.outstanding - 1 ∧
    y.permits = x.permits.erase p ∧ m'.world.gates = m.world.gates.set g y

variable {w v : World} {s : List Activation} {c : CoordinatorId} {g : GateId} {x : Gate} {p : PermitId}
  {after : After} {r r' : Reply}

/-! ## Answers -/

theorem enterHook_answers (w : World) (s : List Activation) (c : CoordinatorId) (h : Hook) (l : Listener)
    (others : List Listener) (r : Reply) : (enterHook w s c h l others (.reply r)).Answers s r :=
  .inr ⟨_, rfl, rfl, rfl⟩

theorem deliver_answers (w : World) (s : List Activation) (c : CoordinatorId) (r : Reply) :
    (deliver w s c (.reply r)).Answers s r := by
  unfold deliver
  split
  · exact .inl ⟨rfl, rfl⟩
  · split
    · exact .inl ⟨rfl, rfl⟩
    · exact enterHook_answers _ _ _ _ _ _ _

theorem dispatch_answers (w : World) (s : List Activation) (c : CoordinatorId) (r : Reply) :
    (dispatch w s c (.reply r)).Answers s r := by
  unfold dispatch
  split
  · exact .inl ⟨rfl, rfl⟩
  · split
    · exact .inl ⟨rfl, rfl⟩
    · exact deliver_answers _ _ _ _

theorem fire_answers (w : World) (s : List Activation) (g : GateId) (callback : Option DrainCallback)
    (r : Reply) : (fire w s g callback (.reply r)).Answers s r := by
  rcases fire_cases w s g callback (.reply r) with
    ⟨e, -⟩ | ⟨cb, -, ⟨code, -, e⟩ | ⟨c, n, k, -, -, -, e⟩ | ⟨c, n, -, -, e⟩⟩ <;> rw [e]
  · exact .inl ⟨rfl, rfl⟩
  · exact .inr ⟨_, rfl, rfl, rfl⟩
  · exact dispatch_answers _ _ _ _
  · exact .inl ⟨rfl, rfl⟩

/-! ## What becomes of a permit -/

/-- A gate takes a permit back, and its callback runs if it hands one out. -/
theorem fire_takenBack {m : Machine} {y : Gate} {cb : Option DrainCallback} (hg : m.world.gates = w.gates)
    (hx : x.Sound) (hr : x.release? p = some (y, cb)) :
    TakenBack m (fire ((w.setGate g y).note (.returned g p)) s g cb after) g x p := by
  have hb := fire_books ((w.setGate g y).note (.returned g p)) s g cb after
  rw [note_books_of_entry rfl] at hb
  obtain ⟨-, hout, hperm, -⟩ := Gate.release?_cases hx hr
  refine ⟨?_, y, cb, hr, hout, hperm, ?_⟩
  · have he : .returned g p ∈
        (fire ((w.setGate g y).note (.returned g p)) s g cb after).world.books.entries := by
      rw [hb]
      exact List.mem_append_right _ List.mem_cons_self
    exact (List.mem_filter.1 he).1
  · rw [hg]
    exact congrArg Books.gates hb

/-- **A permit that is given back** is taken back if it is in flight, and is refused else. -/
theorem giveBack_settles {m : Machine} (hm : m.stack = s) (hg : m.world.gates g = some x) (hx : x.Sound)
    (p : PermitId) :
    (p ∈ x.permits → TakenBack m (giveBack m.world s g p) g x p ∧
        (giveBack m.world s g p).Answers s .done) ∧
      (p ∉ x.permits → Untouched m (giveBack m.world s g p) ∧
        (giveBack m.world s g p).signal = .replied (.refused (.doubleRelease x.name p))) := by
  unfold giveBack
  rw [hg]
  simp only [World.release]
  refine ⟨fun hp => ?_, fun hp => ?_⟩
  · obtain ⟨y, cb, hr⟩ := Gate.exists_release? hp
    rw [hr]
    exact ⟨fire_takenBack rfl hx hr, fire_answers _ _ _ _ _⟩
  · rw [Gate.release?_eq_none hp]
    exact ⟨⟨rfl, rfl, hm.symm⟩, rfl⟩

/-- **A permit that is let go of** is taken back if it is in flight, and else only the log knows. -/
theorem letGo_settles {m : Machine} (hm : m.stack = s) (hg : m.world.gates g = some x) (hx : x.Sound)
    (p : PermitId) (r : Reply) :
    (letGo m.world s ⟨p, g⟩ (.reply r)).Answers s r ∧
      (p ∈ x.permits → TakenBack m (letGo m.world s ⟨p, g⟩ (.reply r)) g x p) ∧
      (p ∉ x.permits → Untouched m (letGo m.world s ⟨p, g⟩ (.reply r))) := by
  unfold letGo
  rw [hg]
  simp only [World.drop, World.release]
  by_cases hp : p ∈ x.permits
  · obtain ⟨y, cb, hr⟩ := Gate.exists_release? hp
    rw [hr]
    exact ⟨fire_answers _ _ _ _ _, fun _ => fire_takenBack rfl hx hr, fun hn => absurd hp hn⟩
  · rw [Gate.release?_eq_none hp]
    exact ⟨.inl ⟨rfl, rfl⟩, fun h => absurd h hp, fun _ => ⟨rfl, rfl, hm.symm⟩⟩

/-- Whatever gives a permit back at a gate does the same. -/
theorem perform_of_givesBack {op : Op} (h : op.givesBack? = some (g, p)) :
    perform w s op = giveBack w s g p := by
  cases op with
  | release q =>
    cases h
    rfl
  | releaseVia f q =>
    simp only [Op.givesBack?] at h
    split at h
    · rename_i hq
      cases h
      -- where there is no such gate, neither answers
      simp only [perform, releaseVia, hq, if_true]
      cases hg : w.gates g with
      | none => simp only [giveBack, hg]
      | some x => rfl
    · cases h
  | releaseTicket f t =>
    simp only [Op.givesBack?] at h
    split at h
    · rename_i ht
      cases h
      simp only [perform, releaseTicket, ht, if_true]
      cases hg : w.gates g with
      | none => simp only [giveBack, hg]
      | some x => rfl
    · cases h
  | _ => cases h

/-! ## The wrong gate -/

theorem setCoordinator_congr (hc : v.coordinators = w.coordinators) (k : Coordinator) :
    (v.setCoordinator c k).coordinators = (w.setCoordinator c k).coordinators := by
  rw [setCoordinator_coordinators, setCoordinator_coordinators, hc]

/-- What is delivered depends on the coordinators alone. -/
theorem deliver_sameEffect (hg : v.gates = w.gates) (hc : v.coordinators = w.coordinators) :
    SameEffect (deliver w s c (.reply r)) (deliver v s c (.reply r')) := by
  unfold deliver
  rw [hc]
  cases w.coordinators c with
  | none => exact ⟨hg, hc, rfl⟩
  | some k =>
    simp only
    cases k.outbox with
    | nil => exact ⟨hg, setCoordinator_congr hc _, rfl⟩
    | cons n rest => exact ⟨hg, setCoordinator_congr hc _, rfl⟩

theorem dispatch_sameEffect (hg : v.gates = w.gates) (hc : v.coordinators = w.coordinators) :
    SameEffect (dispatch w s c (.reply r)) (dispatch v s c (.reply r')) := by
  unfold dispatch
  rw [hc]
  cases w.coordinators c with
  | none => exact ⟨hg, hc, rfl⟩
  | some k =>
    simp only
    split
    · exact ⟨hg, hc, rfl⟩
    · exact deliver_sameEffect hg (setCoordinator_congr hc _)

theorem fire_sameEffect (hg : v.gates = w.gates) (hc : v.coordinators = w.coordinators)
    (hd : v.date = w.date) (callback : Option DrainCallback) :
    SameEffect (fire w s g callback (.reply r)) (fire v s g callback (.reply r')) := by
  unfold fire
  cases callback with
  | none => exact ⟨hg, hc, rfl⟩
  | some cb =>
    cases cb with
    | run code => exact ⟨hg, hc, rfl⟩
    | report c n =>
      simp only [note_coordinators]
      rw [hc]
      cases hk : w.coordinators c with
      | none => exact ⟨hg, hc, rfl⟩
      | some k =>
        simp only
        split
        · -- the coordinator strikes the gate in both worlds, on the same date
          have hstrike (u u' : World) (hg : u'.gates = u.gates) (hc : u'.coordinators = u.coordinators)
              (hd : u'.date = u.date) : (u'.drained c k n g).gates = (u.drained c k n g).gates ∧
                (u'.drained c k n g).coordinators = (u.drained c k n g).coordinators := by
            rcases drained_cases u c k n g with ⟨e, p, hp, hn⟩ | ⟨e, hn⟩ <;>
              rcases drained_cases u' c k n g with ⟨e', p', hp', hn'⟩ | ⟨e', hn'⟩ <;> rw [e, e']
            · rw [strike_gates, strike_gates, strike_coordinators, strike_coordinators, hc, hd]
              exact ⟨hg, rfl⟩
            · exact absurd hn (hn' p hp)
            · exact absurd hn' (hn p' hp')
            · exact ⟨hg, hc⟩
          obtain ⟨hg', hc'⟩ := hstrike (w.note (.fired g (.report c n))) (v.note (.fired g (.report c n)))
            hg hc hd
          exact dispatch_sameEffect hg' hc'
        · exact ⟨hg, hc, rfl⟩

/-- To let go of a permit does the same whatever the log says before and the operation answers. -/
theorem letGo_sameEffect (w : World) (a : Alert) (p : Permit) :
    SameEffect (letGo w s p (.reply r)) (letGo (w.alert a) s p (.reply r')) := by
  unfold letGo
  rw [alert_gates]
  cases w.gates p.gate with
  | none => exact ⟨rfl, rfl, rfl⟩
  | some x =>
    simp only [World.drop, World.release]
    cases x.release? p.id with
    | none => exact ⟨rfl, rfl, rfl⟩
    | some y =>
      obtain ⟨y, cb⟩ := y
      simp only
      exact fire_sameEffect (w := (w.setGate p.gate y).note (.returned p.gate p.id))
        (v := ((w.alert a).setGate p.gate y).note (.returned p.gate p.id)) rfl rfl rfl cb

/-! ## Coordinators -/

end Machine

namespace World

/-- The gates that there have been have the counts and the permits that they had. -/
def SameCounts (w w' : World) : Prop :=
  ∀ g x, w.gates g = some x →
    ∃ y, w'.gates g = some y ∧ y.outstanding = x.outstanding ∧ y.permits = x.permits

variable {w w' w'' : World} {c : CoordinatorId} {k : Coordinator} {g : GateId} {x y : Gate}

theorem SameCounts.trans (h : w.SameCounts w') (h' : w'.SameCounts w'') : w.SameCounts w'' := by
  intro g x hx
  obtain ⟨y, hy, ho, hp⟩ := h g x hx
  obtain ⟨z, hz, ho', hp'⟩ := h' g y hy
  exact ⟨z, hz, ho'.trans ho, hp'.trans hp⟩

theorem sameCounts_of_eq (h : w'.gates = w.gates) : w.SameCounts w' := fun _ x hx =>
  ⟨x, h ▸ hx, rfl, rfl⟩

/-- Some gates have each become another with the same permits. -/
theorem sameCounts_map {gs : List GateId} {f : Gate → Gate} (ho : ∀ x, (f x).outstanding = x.outstanding)
    (hp : ∀ x, (f x).permits = x.permits)
    (hg : ∀ g, w'.gates g = if g ∈ gs then (w.gates g).map f else w.gates g) : w.SameCounts w' := by
  intro g x hx
  rw [hg g]
  split
  · exact ⟨f x, by rw [hx]; rfl, ho x, hp x⟩
  · exact ⟨x, hx, rfl, rfl⟩

theorem sameCounts_setGate (hx : w.gates g = none) : w.SameCounts (w.setGate g y) := by
  intro f z hz
  have hf : f ≠ g := fun he => by rw [he, hx] at hz; cases hz
  exact ⟨z, (Table.set_of_ne _ _ hf).trans hz, rfl, rfl⟩

theorem addGate_sameCounts (hx : w.gates g = some x) : w.SameCounts (w.addGate c k g x) := by
  by_cases hg : g ∈ k.gates
  · rw [addGate_of_mem hg]
    exact sameCounts_of_eq rfl
  obtain ⟨y, hy, hyx⟩ := addGate_gates_eq (c := c) hx hg
  intro f z hz
  rw [hy]
  by_cases hf : f = g
  · subst hf
    cases hx.symm.trans hz
    rcases hyx with rfl | rfl
    · exact ⟨y, Table.set_self _ _ _, rfl, rfl⟩
    · exact ⟨_, Table.set_self _ _ _, Gate.beginDrain_outstanding _ _, Gate.beginDrain_permits _ _⟩
  · exact ⟨z, (Table.set_of_ne _ _ hf).trans hz, rfl, rfl⟩

end World

namespace Machine

open World

variable {w : World} {s : List Activation} {c : CoordinatorId} {after : After}

theorem suspend_sameCounts : w.SameCounts (suspend w s c after).world := by
  unfold suspend
  split
  · exact sameCounts_of_eq rfl
  · rename_i k _
    split
    · have hs : w.SameCounts (w.suspend c k) :=
        sameCounts_map (fun x => Gate.beginDrain_outstanding x _) (fun x => Gate.beginDrain_permits x _)
          (suspend_gates w c k)
      exact hs.trans (sameCounts_of_eq dispatch_alike.gates)
    · exact sameCounts_of_eq (finish_rests w s after).gates

theorem resume_sameCounts : w.SameCounts (resume w s c after).world := by
  unfold resume
  split
  · exact sameCounts_of_eq rfl
  · rename_i k _
    split
    · exact sameCounts_of_eq (finish_rests w s after).gates
    · have hs : w.SameCounts (w.resume c k) :=
        sameCounts_map Gate.reopen_outstanding (fun _ => rfl) (resume_gates w c k)
      exact hs.trans (sameCounts_of_eq dispatch_alike.gates)

theorem suspendService_sameCounts {x : ServiceId} {after : CoordinatorId → After} :
    w.SameCounts (suspendService w s x after).world := by
  unfold suspendService
  split
  · exact sameCounts_of_eq rfl
  · exact suspend_sameCounts

theorem resumeService_sameCounts {x : ServiceId} {after : CoordinatorId → After} :
    w.SameCounts (resumeService w s x after).world := by
  unfold resumeService
  split
  · exact sameCounts_of_eq rfl
  · exact resume_sameCounts

theorem command_sameCounts {x : ServiceId} {k : Http.Command} {head : Bool} :
    w.SameCounts (command w s x k head).world := by
  unfold command
  split
  · exact sameCounts_of_eq rfl
  · cases k with
    | health => exact sameCounts_of_eq rfl
    | state => exact sameCounts_of_eq rfl
    | suspend => exact suspendService_sameCounts
    | resume => exact resumeService_sameCounts
    | shutdown =>
      simp only [shutdown]
      split <;> exact sameCounts_of_eq rfl

/-- **Coordinators neither issue permits nor take them back.** -/
theorem perform_sameCounts {op : Op} (h : op.coordinator? w = some c) :
    w.SameCounts (perform w s op).world := by
  have hself : w.SameCounts w := sameCounts_of_eq rfl
  cases op with
  | shareCoordinator d =>
    simp only [perform, shareCoordinator]
    split <;> exact sameCounts_of_eq rfl
  | dropCoordinator d => exact sameCounts_of_eq (rests_dropCoordinator w d).gates
  | suspend d => exact suspend_sameCounts
  | resume d => exact resume_sameCounts
  | registerGate d g name =>
    simp only [perform, registerGate]
    split
    · rename_i k hk hg
      exact (sameCounts_setGate hg).trans (addGate_sameCounts (Table.set_self _ _ _))
    · exact hself
  | addGate d g =>
    simp only [perform, addGate]
    split
    · rename_i k x hk hg
      exact addGate_sameCounts hg
    · exact hself
  | removeGate d g =>
    simp only [perform, removeGate]
    split
    · exact hself
    · exact sameCounts_of_eq (dispatch_alike.gates.trans (strike_gates _ _ _ _))
  | addListener d l offer =>
    simp only [perform, addListener]
    split
    · exact hself
    · split <;> exact sameCounts_of_eq rfl
  | removeListener d l =>
    simp only [perform, removeListener]
    split <;> exact sameCounts_of_eq rfl
  | newService x d =>
    simp only [perform, newService]
    split <;> exact sameCounts_of_eq rfl
  | suspendService x => exact suspendService_sameCounts
  | resumeService x => exact resumeService_sameCounts
  | startDrain d x timeout =>
    simp only [perform, startDrain]
    split
    · exact suspendService_sameCounts (w := w.setService x _)
    · exact hself
  | request site q p =>
    -- only a command of an operator is for a coordinator
    simp only [Op.coordinator?] at h
    split at h
    · rename_i x k hr
      simp only [perform, request, hr]
      exact command_sameCounts
    · cases h
  | _ => cases h

/-! ## The accounts -/

/-- **Permits are accounted for.** After any run, whatever code it has entered and however that came back:

* a gate counts the permits that it has issued and that have not come back, each once;
* a permit comes back once at most, and to the gate that has issued it;
* whatever gives a permit back at its gate succeeds if it is in flight, and is refused and changes
  nothing else; to let go of a permit is to give it back without an answer;
* a ticket at the wrong gate is refused and changes nothing, a permit at the wrong gate is refused and let
  go of;
* nothing that is done with a coordinator changes a count. -/
theorem accounting_exact (moves : List Move) :
    let m := run {} moves
    let w := m.world
    (∀ g x, w.gates g = some x →
        (0 ≤ x.outstanding ∧ x.outstanding = x.permits.length) ∧ (w.issued g).Nodup ∧
          x.permits.Perm ((w.issued g).filter fun p => !w.hasReturned g p) ∧
          x.outstanding = ((w.issued g).filter fun p => !w.hasReturned g p).length) ∧
      (∀ g p, .returned g p ∈ w.journal →
        w.journal.count (.returned g p) = 1 ∧ .issued g p ∈ w.journal ∧
          ∀ f, .issued f p ∈ w.journal ∨ .returned f p ∈ w.journal → f = g) ∧
      (m.signal ≠ .aborted →
        (∀ op g x p, op.givesBack? = some (g, p) → w.gates g = some x →
          (p ∈ x.permits → TakenBack m (step m (.call op)) g x p ∧
              (step m (.call op)).Answers m.stack .done) ∧
            (p ∉ x.permits → Untouched m (step m (.call op)) ∧
              (step m (.call op)).signal = .replied (.refused (.doubleRelease x.name p)))) ∧
        (∀ g x p, w.gates g = some x →
          (step m (.call (.drop ⟨p, g⟩))).Answers m.stack .done ∧
            (p ∈ x.permits → TakenBack m (step m (.call (.drop ⟨p, g⟩))) g x p) ∧
            (p ∉ x.permits → Untouched m (step m (.call (.drop ⟨p, g⟩))))) ∧
        (∀ g x t, w.gates g = some x → t.gate ≠ g →
          Untouched m (step m (.call (.releaseTicket g t))) ∧
            (step m (.call (.releaseTicket g t))).signal =
              .replied (.refused (.wrongGate x.name t.permit))) ∧
        (∀ g x y p, w.gates g = some x → w.gates p.gate = some y → p.gate ≠ g →
          SameEffect (step m (.call (.drop p))) (step m (.call (.releaseVia g p))) ∧
            (step m (.call (.releaseVia g p))).Answers m.stack
              (.refused (.wrongGate x.name p.id))) ∧
        ∀ op c, op.coordinator? w = some c → w.SameCounts (step m (.call op)).world) := by
  intro m w
  have hb : w.books.Balanced := run_balanced moves
  have hs : w.Sound := run_sound moves
  refine ⟨fun g x hg => ?_, fun g p hr => ?_, fun halive => ?_⟩
  · have hx := hs.gates g x hg
    have hperm := permits_perm hb hg
    exact ⟨⟨hx.outstanding_nonneg, hx.count⟩, nodup_issued hb g, hperm, by rw [hx.count, hperm.length_eq]⟩
  · obtain ⟨hone, hissued, hissuer⟩ := count_returned_le_one hb hr
    refine ⟨hone, hissued, fun f hf => ?_⟩
    have hf : w.issuer p = some f := by
      rcases hf with hf | hf
      · exact hb.issuer f p (List.mem_filter.2 ⟨hf, rfl⟩)
      · exact (count_returned_le_one hb hf).2.2
    exact Option.some.inj (hf.symm.trans hissuer)
  · have hstep (op : Op) : step m (.call op) = perform w m.stack op := by
      unfold step
      rw [if_neg halive]
    refine ⟨fun op g x p hop hg => ?_, fun g x p hg => ?_, fun g x t hg ht => ?_,
      fun g x y p hg hp hne => ?_, fun op c hc => ?_⟩
    · rw [hstep, perform_of_givesBack hop]
      exact giveBack_settles rfl hg (hs.gates g x hg) p
    · rw [hstep]
      exact letGo_settles rfl hg (hs.gates g x hg) p .done
    · rw [hstep]
      simp only [perform, releaseTicket, hg, ht, if_false]
      exact ⟨⟨rfl, rfl, rfl⟩, rfl⟩
    · rw [hstep, hstep]
      have hvia : perform w m.stack (.releaseVia g p) =
          letGo (w.alert (.wrongGate x.name y.name p.id)) m.stack p
            (.reply (.refused (.wrongGate x.name p.id))) := by
        simp only [perform, releaseVia, hg, hp, hne, if_false]
      have hsettle := letGo_settles
        (m := ⟨w.alert (.wrongGate x.name y.name p.id), m.stack, m.signal⟩) rfl hp
        (hs.gates p.gate y hp) p.id (.refused (.wrongGate x.name p.id))
      rw [hvia]
      exact ⟨letGo_sameEffect w _ p, hsettle.1⟩
    · rw [hstep]
      exact perform_sameCounts hc

/-- The ticket of `p` comes back first and enters the code of the drain. Its handle is refused there, and
`q` is refused by the gate of `p` and let go of. -/
theorem accounting_exact_copies :
    let p : Permit := ⟨⟨⟨1, by decide⟩⟩, ⟨⟨0, by decide⟩⟩⟩
    let q : Permit := ⟨⟨⟨3, by decide⟩⟩, ⟨⟨2, by decide⟩⟩⟩
    let moves : List Move := [.call (.newGate p.gate "a"), .call (.newGate q.gate "b"),
      .call (.acquire p.gate p.id), .call (.acquire q.gate q.id), .call (.beginDrain p.gate ⟨0⟩),
      .call (.releaseTicket p.gate p.ticket)]
    let m := run {} moves
    m.stack = [.callback p.gate ⟨0⟩ (.reply .done)] ∧ m.signal ≠ .aborted ∧
      m.world.gates p.gate = some { name := "a", state := .drained } ∧
      (Untouched m (step m (.call (.release p))) ∧
        (step m (.call (.release p))).signal = .replied (.refused (.doubleRelease "a" p.id))) ∧
      SameEffect (step m (.call (.drop q))) (step m (.call (.releaseVia p.gate q))) ∧
      (step m (.call (.releaseVia p.gate q))).Answers m.stack (.refused (.wrongGate "a" q.id)) := by
  intro p q moves m
  have halive : m.signal ≠ .aborted := by decide +kernel
  have hp : m.world.gates p.gate = some { name := "a", state := .drained } := by decide +kernel
  have hq : m.world.gates q.gate =
      some { name := "b", outstanding := 1, permits := [q.id] } := by decide +kernel
  obtain ⟨-, -, hstep⟩ := accounting_exact moves
  obtain ⟨hback, -, -, hwrong, -⟩ := hstep halive
  obtain ⟨-, hrefused⟩ := hback (.release p) p.gate _ p.id rfl hp
  obtain ⟨hsame, hanswer⟩ := hwrong p.gate _ _ q hp hq (by decide)
  exact ⟨by decide +kernel, halive, hp, hrefused (by decide), hsame, hanswer⟩

end Machine

end Sluice
