import Sluice.Proofs.Places

/-!
# Permits in flight

* `World.Holds`: a permit is in flight at a gate. `Op.permit?`: the permit that an operation is handed.
  `step_holds`: **a permit comes back only by a move that has it**: an operation that is handed it, or the end of
  the request whose permit it is.
* `World.returned`: the permits that have come back to a gate. `World.outstanding_eq`: a gate counts what it has
  issued less what has come back.
* `run_issued`, `run_returned`: what has been issued, and what has come back, is not forgotten.
-/

namespace Sluice

/-- The permit that an operation is handed. -/
def Op.permit? : Op → Option PermitId
  | .release p | .releaseVia _ p | .drop p => some p.id
  | .releaseTicket _ t => some t.permit
  | _ => none

namespace World

/-- A permit is in flight at a gate. -/
def Holds (w : World) (g : GateId) (p : PermitId) : Prop := ∃ x, w.gates g = some x ∧ p ∈ x.permits

variable {w w' : World} {g f : GateId} {p q : PermitId} {x : Gate} {c : CoordinatorId} {k : Coordinator}

theorem Holds.of_gates (h : w.Holds g p) (hg : w'.gates = w.gates) : w'.Holds g p := by
  unfold Holds
  rw [hg]
  exact h

theorem Holds.sameCounts (h : w.Holds g p) (hs : w.SameCounts w') : w'.Holds g p := by
  obtain ⟨x, hx, hp⟩ := h
  obtain ⟨y, hy, -, hperm⟩ := hs g x hx
  exact ⟨y, hy, hperm ▸ hp⟩

/-- One gate changes, and keeps the permit if it is this one. -/
theorem Holds.setGate (h : w.Holds g p) {y : Gate}
    (hy : ∀ x, w.gates f = some x → p ∈ x.permits → p ∈ y.permits) : (w.setGate f y).Holds g p := by
  obtain ⟨x, hx, hp⟩ := h
  by_cases hf : g = f
  · subst hf
    exact ⟨y, Table.set_self _ _ _, hy x hx hp⟩
  · exact ⟨x, (Table.set_of_ne _ _ hf).trans hx, hp⟩

/-- Another permit comes back, or is not out. -/
theorem Holds.release (h : w.Holds g p) (hx : w.gates f = some x) (hq : q ≠ p) :
    (w.release f x q).1.Holds g p := by
  unfold World.release
  split
  · rename_i y callback hr
    refine Holds.of_gates (w := w.setGate f y) (h.setGate fun z hz hp => ?_) rfl
    cases hx.symm.trans hz
    rw [(Gate.release?_permits hr).2]
    exact (List.mem_erase_of_ne hq.symm).2 hp
  · exact h.of_gates rfl

theorem Holds.drop (h : w.Holds g p) (hx : w.gates f = some x) (hq : q ≠ p) : (w.drop f x q).1.Holds g p := by
  have hr := h.release hx hq
  unfold World.drop
  split
  · rename_i v callback hv
    rw [hv] at hr
    exact hr
  · rename_i v e hv
    rw [hv] at hr
    exact hr.of_gates rfl

theorem Holds.letIn (h : w.Holds g p) (hx : w.gates f = some x) : (w.letIn f x q).Holds g p := by
  refine Holds.of_gates (w := w.setGate f (x.letIn q)) (h.setGate fun z hz hp => ?_) rfl
  cases hx.symm.trans hz
  exact List.mem_cons_of_mem _ hp

end World

namespace Machine

open Http World

variable {w : World} {s : List Activation} {c : CoordinatorId} {after : After} {m : Machine} {op : Op}
  {g f : GateId} {p q : PermitId}

/-! ## Operations -/

theorem fire_gates (w : World) (s : List Activation) (g : GateId) (callback : Option DrainCallback)
    (after : After) : (fire w s g callback after).world.gates = w.gates :=
  congrArg Books.gates (fire_books w s g callback after)

theorem giveBack_holds (h : w.Holds g p) (hq : q ≠ p) : (giveBack w s f q).world.Holds g p := by
  unfold giveBack
  split
  · exact h
  · rename_i x hx
    have hr := h.release hx hq
    split
    · rename_i v callback hv
      rw [hv] at hr
      exact hr.of_gates (fire_gates _ _ _ _ _)
    · rename_i v e hv
      rw [hv] at hr
      exact hr

theorem letGo_holds {q : Permit} (h : w.Holds g p) (hq : q.id ≠ p) : (letGo w s q after).world.Holds g p := by
  unfold letGo
  split
  · exact h.of_gates (finish_rests w s after).gates
  · rename_i x hx
    exact (h.drop hx hq).of_gates (fire_gates _ _ _ _ _)

theorem respond_holds {q : Permit} {r : Response} (h : w.Holds g p) (hq : q.id ≠ p) :
    (respond w s q r).world.Holds g p := by
  unfold respond
  split
  · exact h
  · rename_i x hx
    have hr := h.release hx hq
    split
    · rename_i v callback hv
      rw [hv] at hr
      exact hr.of_gates (fire_gates _ _ _ _ _)
    · rename_i v e hv
      rw [hv] at hr
      exact hr.of_gates rfl

theorem pollAt_gates (d : DrainId) (deadline : Drain → Nat) (late : World → DrainError → World)
    (hlate : ∀ v e, (late v e).gates = v.gates) : (pollAt w s d deadline late).world.gates = w.gates := by
  unfold pollAt
  split
  · rfl
  rename_i x _
  split
  · rfl
  rename_i k _
  have hpoll := (rests_poll w k { x with deadline := deadline x }).gates
  have hend (u : World) : (({ u with drains := u.drains.erase d } : World).dropService x.service).gates =
      u.gates := (rests_dropService _ _).gates
  generalize w.poll k { x with deadline := deadline x } = po at hpoll ⊢
  obtain ⟨v, o⟩ := po
  cases o with
  | pending => exact hpoll
  | drained => exact (hend v).trans hpoll
  | timedOut e => exact ((hend _).trans (hlate v e)).trans hpoll

/-- Work that is turned away changes no permits. -/
theorem turnAway_holds (h : w.Holds g p) {x : Gate} (hx : w.gates f = some x) :
    (fire (w.turnAway f x).1 s f (w.turnAway f x).2 after).world.Holds g p := by
  have haway : x.turnAway.1.permits = x.permits := by
    unfold Gate.turnAway Gate.completeDrain
    repeat' split
    all_goals rfl
  refine Holds.of_gates (w := w.setGate f x.turnAway.1) (h.setGate fun z hz hp => ?_) (fire_gates _ _ _ _ _)
  cases hx.symm.trans hz
  rw [haway]
  exact hp

theorem behindGate_holds (h : w.Holds g p) (hi : w.issuer p ≠ none) (f : GateId) (l : Landing) (r : Request) :
    (behindGate w s f l r q).world.Holds g p := by
  unfold behindGate
  split
  · rename_i x hx hq
    split
    · split
      · exact h.letIn hx
      · -- what is let in has a permit that nobody has issued before
        have hne : q ≠ p := fun e => hi (e ▸ hq)
        exact respond_holds (h.letIn hx) hne
    · exact turnAway_holds h hx
  · exact h

theorem request_holds (h : w.Holds g p) (hi : w.issuer p ≠ none) (site : Site) (r : Request) :
    (request w s site r q).world.Holds g p := by
  unfold request
  split
  · exact h.sameCounts command_sameCounts
  · exact behindGate_holds h hi _ _ _
  · exact h

/-- **An operation that is not handed a permit** does not give it back, unless it drops the request whose it
is. -/
theorem perform_holds (h : w.Holds g p) (hi : w.issuer p ≠ none) (hop : op.permit? ≠ some p)
    (hend : ∀ r a, op = .cancelRequest r → w.waiting r = some a → a.permit.id ≠ p) :
    (perform w s op).world.Holds g p := by
  cases op with
  | newGate f name =>
    simp only [perform, newGate]
    split
    · exact h
    · rename_i hf
      exact h.setGate fun x hx _ => by
        rw [hf] at hx
        cases hx
  | acquire f q =>
    simp only [perform, acquire]
    split
    · rename_i x hx _
      split
      · exact h.letIn hx
      · exact turnAway_holds h hx
    · exact h
  | release q => exact giveBack_holds h fun e => hop (congrArg some e)
  | drop q => exact letGo_holds h fun e => hop (congrArg some e)
  | releaseVia f q =>
    have hq : q.id ≠ p := fun e => hop (congrArg some e)
    simp only [perform, releaseVia]
    split
    · split
      · exact giveBack_holds h hq
      · exact letGo_holds (h.of_gates rfl) hq
    · exact h
  | releaseTicket f t =>
    have hq : t.permit ≠ p := fun e => hop (congrArg some e)
    simp only [perform, releaseTicket]
    split
    · exact h
    · split
      · exact giveBack_holds h hq
      · exact h
  | beginDrain f code =>
    simp only [perform, beginDrain]
    split
    · exact h
    · rename_i x hx
      refine Holds.of_gates (w := w.setGate f (x.beginDrain (.run code))) (h.setGate fun z hz hp => ?_) rfl
      cases hx.symm.trans hz
      rw [Gate.beginDrain_permits]
      exact hp
  | reopen f =>
    simp only [perform, reopen]
    split
    · exact h
    · rename_i x hx
      refine Holds.of_gates (w := w.setGate f x.reopen) (h.setGate fun z hz hp => ?_) rfl
      cases hx.symm.trans hz
      exact hp
  | suspend d => exact h.sameCounts suspend_sameCounts
  | resume d => exact h.sameCounts resume_sameCounts
  | suspendService x => exact h.sameCounts suspendService_sameCounts
  | resumeService x => exact h.sameCounts resumeService_sameCounts
  | startDrain d x timeout =>
    simp only [perform, startDrain]
    split
    · exact Holds.sameCounts (w := w.setService x _) h suspendService_sameCounts
    · exact h
  | pollDrain d => exact h.of_gates (pollAt_gates d _ _ fun _ _ => rfl)
  | giveUpDrain d => exact h.of_gates (pollAt_gates d _ _ fun _ _ => rfl)
  | cancelDrain d =>
    simp only [perform, cancelDrain]
    split
    · exact h
    · exact h.of_gates (rests_dropService _ _).gates
  | dropService x => exact h.of_gates (rests_dropService w x).gates
  | shutdown x =>
    simp only [perform, shutdown]
    split <;> exact h
  | newCoordinator d =>
    simp only [perform, newCoordinator]
    split <;> exact h
  | request site r q => exact request_holds h hi site r
  | finishRequest r =>
    simp only [perform, finishRequest]
    split <;> exact h
  | cancelRequest r =>
    simp only [perform, cancelRequest]
    split
    · exact h
    · rename_i a ha
      exact letGo_holds (h.of_gates rfl) (hend r a rfl ha)
  | advance nanos => exact h
  | shareCoordinator d | dropCoordinator d | registerGate d _ _ | addGate d _ | removeGate d _
  | addListener d _ _ | removeListener d _ | newService _ d =>
    exact h.sameCounts (perform_sameCounts (c := d) rfl)

/-! ## Moves -/

/-- **A permit comes back only by a move that has it**: a call that is handed it, or the end of the request whose
permit it is. -/
theorem step_holds {move : Move} (h : m.world.Holds g p) (hi : m.world.issuer p ≠ none)
    (hop : ∀ op, move = .call op → op.permit? ≠ some p)
    (hend : ∀ a t after, m.Ends a move t after → a.permit.id ≠ p) : (step m move).world.Holds g p := by
  unfold step
  split
  · exact h
  cases move with
  | call op =>
    refine perform_holds h hi (hop op rfl) fun r a hr ha => ?_
    subst hr
    exact hend a _ _ (.cancelled ha)
  | ret r =>
    cases hs : m.stack with
    | nil => exact h
    | cons b t =>
      cases b with
      | callback => exact h.of_gates (finish_rests _ _ _).gates
      | hook => exact h.of_gates nextHook_alike.gates
      | handler a => exact respond_holds h (hend a _ _ (.answered hs))
  | panic payload =>
    cases hs : m.stack with
    | nil => exact h
    | cons b t =>
      cases b with
      | callback g code after => cases after <;> exact h
      | hook => exact (h.of_gates rfl).of_gates nextHook_alike.gates
      | handler a => exact letGo_holds h (hend a _ _ (.panicked hs))
  | park r =>
    simp only
    unfold park
    split
    · split <;> exact h
    · exact h

end Machine

/-! ## What has come back -/

namespace World

/-- The permits that have come back to a gate, newest first. -/
def returned (w : World) (g : GateId) : List PermitId :=
  w.journal.filterMap fun
    | .returned h p => if h = g then some p else none
    | _ => none

variable {w w' : World} {g : GateId} {x : Gate} {p : PermitId}

theorem count_returned (w : World) (g : GateId) (p : PermitId) :
    (w.returned g).count p = w.journal.count (.returned g p) := by
  unfold returned
  induction w.journal with
  | nil => rfl
  | cons o l ih =>
    rw [List.filterMap_cons, List.count_cons, ← ih]
    cases o with
    | returned f q =>
      by_cases hf : f = g
      · subst hf
        simp [List.count_cons]
      · simp [hf]
    | _ => simp

/-- What has been issued is in flight, or has come back. -/
theorem issued_perm (h : w.books.Balanced) (hg : w.gates g = some x) :
    (w.issued g).Perm (x.permits ++ w.returned g) := by
  rw [List.perm_iff_count]
  intro p
  rw [List.count_append, count_issued, count_returned, count_permits h hg]

/-- **A gate counts what it has issued less what has come back.** -/
theorem outstanding_eq (h : w.books.Balanced) (hs : w.Sound) (hg : w.gates g = some x) :
    x.outstanding = (w.issued g).length - (w.returned g).length := by
  have hlen := (issued_perm h hg).length_eq
  rw [List.length_append] at hlen
  rw [(hs.gates g x hg).count]
  omega

/-- The books tell what has been issued and what has come back. -/
theorem issued_books (w : World) (g : GateId) :
    w.issued g = w.books.entries.filterMap fun
      | .issued h p => if h = g then some p else none
      | _ => none := by
  unfold issued books
  rw [List.filterMap_filter]
  refine List.filterMap_congr fun o _ => ?_
  cases o <;> rfl

theorem returned_books (w : World) (g : GateId) :
    w.returned g = w.books.entries.filterMap fun
      | .returned h p => if h = g then some p else none
      | _ => none := by
  unfold returned books
  rw [List.filterMap_filter]
  refine List.filterMap_congr fun o _ => ?_
  cases o <;> rfl

end World

namespace Machine

open World

variable {m : Machine} {g : GateId} {p : PermitId}

/-- **The books are only ever added to.** -/
theorem Turn.entries {b b' : Books} (h : Turn b b') : b.entries <:+ b'.entries := by
  cases h with
  | made => exact List.suffix_rfl
  | issued | closed | reopened => exact List.suffix_cons _ _
  | returned => exact (List.suffix_cons _ _).trans (List.suffix_append _ _)

/-- A gate that has been made is there to stay. -/
theorem Turn.gate {b b' : Books} (h : Turn b b') (hg : b.gates g ≠ none) : b'.gates g ≠ none := by
  have hset (f : GateId) (y : Gate) : (b.gates.set f y) g ≠ none := by
    unfold Table.set
    split
    · exact Option.some_ne_none y
    · exact hg
  cases h with
  | made | issued | returned | closed | reopened => exact hset _ _

theorem run_entries (hs : m.world.Sound) (moves : List Move) :
    m.world.books.entries <:+ (run m moves).world.books.entries :=
  (run_trail hs moves).keep (P := fun b => m.world.books.entries <:+ b.entries)
    (fun _ _ hturn h => h.trans hturn.entries) List.suffix_rfl

theorem run_gate (hs : m.world.Sound) (moves : List Move) (hg : m.world.gates g ≠ none) :
    (run m moves).world.gates g ≠ none :=
  (run_trail hs moves).keep (P := fun b => b.gates g ≠ none) (fun _ _ hturn h => hturn.gate h) hg

/-- What has been issued, and what has come back, is not forgotten. -/
theorem run_issued (hs : m.world.Sound) (moves : List Move) (g : GateId) :
    m.world.issued g <:+ (run m moves).world.issued g := by
  rw [issued_books, issued_books]
  exact (run_entries hs moves).filterMap _

theorem run_returned (hs : m.world.Sound) (moves : List Move) (g : GateId) :
    m.world.returned g <:+ (run m moves).world.returned g := by
  rw [returned_books, returned_books]
  exact (run_entries hs moves).filterMap _

theorem mem_returned : p ∈ m.world.returned g ↔ .returned g p ∈ m.world.journal := by
  rw [← List.count_pos_iff, count_returned, List.count_pos_iff]

end Machine

end Sluice
