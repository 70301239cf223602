import Sluice.Proofs.Sound

/-!
# The books of the gates

What gates, permits and callbacks have come to is a matter of the gates alone: coordinators close and
open gates, but what they tell their listeners leaves no trace in the books.

* `Books`: the gates, who issued which permit, and what happened to gates, newest first.
* `Turn`: what can happen to them. `Change.turns`, `run_turns`: **every move is a sequence of turns**, so
  that what each turn keeps holds after every run.
-/

namespace Sluice

/-- Whether something happened to a gate. -/
def Occurrence.isEntry : Occurrence → Bool
  | .issued _ _ | .returned _ _ | .closed _ _ _ | .reopened _ | .fired _ _ => true
  | _ => false

/-- The gates, who issued which permit, and what has happened to gates, newest first. -/
structure Books where
  gates : Table GateId Gate := .empty
  issuer : Table PermitId GateId := .empty
  entries : List Occurrence := []

namespace World

def books (w : World) : Books := ⟨w.gates, w.issuer, w.journal.filter (·.isEntry)⟩

variable {w : World} {c : CoordinatorId} {k : Coordinator} {g : GateId} {x : Gate} {o : Occurrence}

theorem note_books (h : o.isEntry = false) : (w.note o).books = w.books := by
  unfold books note
  rw [List.filter_cons_of_neg (by rw [h]; decide)]

theorem note_books_of_entry (h : o.isEntry = true) :
    (w.note o).books = { w.books with entries := o :: w.books.entries } := by
  unfold books note
  rw [List.filter_cons_of_pos h]

theorem alert_books (w : World) (a : Alert) : (w.alert a).books = w.books := note_books rfl

theorem setCoordinator_books (w : World) (c : CoordinatorId) (k : Coordinator) :
    (w.setCoordinator c k).books = w.books := rfl

theorem enter_books (w : World) (c : CoordinatorId) (k : Coordinator) (s : SuspendState) :
    (w.enter c k s).books = w.books := note_books rfl

theorem complete_books (w : World) (c : CoordinatorId) (k : Coordinator) :
    (w.complete c k).books = w.books := enter_books _ _ _ _

theorem strike_books (w : World) (c : CoordinatorId) (k : Coordinator) (g : GateId) :
    (w.strike c k g).books = w.books := by
  rcases strike_cases w c k g with ⟨h, -⟩ | ⟨h, -⟩ <;> rw [h]
  · rfl
  · exact note_books rfl

theorem drained_books (w : World) (c : CoordinatorId) (k : Coordinator) (n : Nat) (g : GateId) :
    (w.drained c k n g).books = w.books := by
  rcases drained_cases w c k n g with ⟨h, -⟩ | ⟨h, -⟩ <;> rw [h]
  exact strike_books w c k g

theorem dropCoordinator_books (w : World) (c : CoordinatorId) :
    (w.dropCoordinator c).books = w.books := by
  unfold dropCoordinator
  split <;> rfl

theorem dropService_books (w : World) (s : ServiceId) : (w.dropService s).books = w.books := by
  unfold dropService
  split
  · rfl
  · simp only
    split
    · exact dropCoordinator_books _ _
    · rfl

theorem expire_books (w : World) (k : Coordinator) (d : Drain) : (w.expire k d).1.books = w.books := by
  unfold expire
  -- the alerts are raised one by one, each in the world that the last has left
  suffices h : ∀ (l : List (String × Int)) (v : World),
      (l.foldl (fun w x => w.alert (.stillBusy x.1 x.2)) v).books = v.books from h _ w
  intro l
  induction l with
  | nil => exact fun _ => rfl
  | cons y l ih => exact fun v => (ih _).trans (alert_books v _)

theorem poll_books (w : World) (k : Coordinator) (d : Drain) : (w.poll k d).1.books = w.books := by
  unfold poll
  split
  · rfl
  · split
    · exact expire_books w k d
    · rfl

end World

namespace Machine

open World

variable {w₀ w : World} {move : Move} {s : List Activation} {c : CoordinatorId} {after : After}

/-! ## What leaves no trace -/

theorem finish_books (w : World) (s : List Activation) (after : After) :
    (finish w s after).world.books = w.books := by
  unfold finish
  split
  · rfl
  · split <;> rfl
  · split <;> rfl
  · rename_i d x timeout
    unfold firstPoll
    split
    · rfl
    · rename_i k _
      have hp := poll_books w k ⟨x, timeout, w.clock + timeout.toNanos⟩
      simp only
      split
      · rename_i v hv
        rw [hv] at hp
        exact hp
      · rename_i v o _ hv
        rw [hv] at hp
        exact (dropService_books v x).trans hp
  · rfl

theorem enterHook_books (w : World) (s : List Activation) (c : CoordinatorId) (h : Hook) (l : Listener)
    (others : List Listener) (after : After) :
    (enterHook w s c h l others after).world.books = w.books := note_books rfl

theorem deliver_books (w : World) (s : List Activation) (c : CoordinatorId) (after : After) :
    (deliver w s c after).world.books = w.books := by
  unfold deliver
  split
  · exact finish_books w s after
  · split
    · exact finish_books _ s after
    · exact enterHook_books _ _ _ _ _ _ _

theorem dispatch_books (w : World) (s : List Activation) (c : CoordinatorId) (after : After) :
    (dispatch w s c after).world.books = w.books := by
  unfold dispatch
  split
  · exact finish_books w s after
  · split
    · exact finish_books w s after
    · exact deliver_books _ s c after

theorem nextHook_books (w : World) (s : List Activation) (c : CoordinatorId) (h : Hook)
    (others : List Listener) (after : After) : (nextHook w s c h others after).world.books = w.books := by
  unfold nextHook
  split
  · exact deliver_books w s c after
  · exact enterHook_books _ _ _ _ _ _ _

/-- Of a callback that runs the books know that it did. -/
theorem fire_books (w : World) (s : List Activation) (g : GateId) (callback : Option DrainCallback)
    (after : After) :
    (fire w s g callback after).world.books =
      { w.books with entries := (callback.map (Occurrence.fired g)).toList ++ w.books.entries } := by
  rcases fire_cases w s g callback after with
    ⟨e, rfl⟩ | ⟨cb, rfl, ⟨code, -, e⟩ | ⟨c, n, k, -, -, -, e⟩ | ⟨c, n, -, -, e⟩⟩ <;> rw [e]
  · exact finish_books w s after
  · exact note_books_of_entry rfl
  · rw [dispatch_books, drained_books]
    exact note_books_of_entry rfl
  · rw [finish_books]
    exact note_books_of_entry rfl

/-! ## Turns -/

/-- What can happen to the books. -/
inductive Turn : Books → Books → Prop
  | made {b g name} (hg : b.gates g = none) : Turn b { b with gates := b.gates.set g { name } }
  | issued {b g x p} (hg : b.gates g = some x) (ho : x.isOpen = true) (hp : b.issuer p = none) :
      Turn b ⟨b.gates.set g (x.letIn p), b.issuer.set p g, .issued g p :: b.entries⟩
  /-- A permit comes back: the callback that the gate hands out is run at once. -/
  | returned {b g x p y callback} (hg : b.gates g = some x) (hr : x.release? p = some (y, callback)) :
      Turn b { b with
        gates := b.gates.set g y
        entries := (callback.map (Occurrence.fired g)).toList ++ .returned g p :: b.entries }
  | closed {b g} {x : Gate} {callback} (hg : b.gates g = some x) :
      Turn b { b with
        gates := b.gates.set g (x.beginDrain callback)
        entries := .closed g callback (decide (x.outstanding = 0)) :: b.entries }
  | reopened {b g x} (hg : b.gates g = some x) :
      Turn b { b with gates := b.gates.set g x.reopen, entries := .reopened g :: b.entries }

/-- Turns one after another. -/
abbrev Turns : Books → Books → Prop := Relation.ReflTransGen Turn

theorem turns_of_eq {b b' : Books} (h : b' = b) : Turns b b' := h ▸ .refl

/-- What each turn keeps, turns keep. -/
theorem Turns.keep {P : Books → Prop} (hP : ∀ a b, Turn a b → P a → P b) {a b : Books} (h : Turns a b)
    (ha : P a) : P b := by
  induction h with
  | refl => exact ha
  | tail _ hbc ih => exact hP _ _ hbc ih

/-- A turn concerns one gate, and leaves it sound. -/
theorem Turn.sound {a b : Books} (hab : Turn a b) (h : ∀ g x, a.gates g = some x → x.Sound) :
    ∀ g x, b.gates g = some x → x.Sound := by
  have hset {g : GateId} {y : Gate} (hy : y.Sound) :
      ∀ f x, (a.gates.set g y) f = some x → x.Sound := by
    intro f x hx
    rcases Table.set_cases hx with ⟨-, rfl⟩ | ⟨-, hx⟩
    · exact hy
    · exact h f x hx
  cases hab with
  | made _ => exact hset (Gate.sound_new _)
  | issued hg ho _ => exact hset ((h _ _ hg).letIn ho)
  | returned hg hr => exact hset ((h _ _ hg).release hr)
  | closed hg => exact hset ((h _ _ hg).beginDrain _)
  | reopened hg => exact hset (h _ _ hg).reopen

theorem turn_beginDrain {g : GateId} {x : Gate} (hg : w.gates g = some x) (cb : DrainCallback) :
    Turn w.books (w.beginDrain g x cb).1.books := by
  have hb : (w.beginDrain g x cb).1.books =
      ⟨w.gates.set g (x.beginDrain cb), w.issuer,
        .closed g cb (decide (x.outstanding = 0)) :: w.books.entries⟩ :=
    note_books_of_entry rfl
  rw [hb]
  exact .closed (b := w.books) hg

theorem turn_reopen {g : GateId} {x : Gate} (hg : w.gates g = some x) :
    Turn w.books (w.reopen g x).books := by
  unfold World.reopen
  rw [note_books_of_entry rfl]
  exact .reopened (b := w.books) hg

theorem closeAll_turns (cb : DrainCallback) (gs : List GateId) (w : World) :
    Turns w.books (w.closeAll cb gs).1.books := by
  induction gs generalizing w with
  | nil => exact .refl
  | cons g gs ih =>
    unfold World.closeAll
    split
    · exact ih w
    · rename_i x hg
      exact (ih _).head (turn_beginDrain hg cb)

theorem openAll_turns (gs : List GateId) (w : World) : Turns w.books (w.openAll gs).books := by
  induction gs generalizing w with
  | nil => exact .refl
  | cons g gs ih =>
    unfold World.openAll
    split
    · exact ih w
    · rename_i x hg
      exact (ih _).head (turn_reopen hg)

theorem suspend_turns (w : World) (c : CoordinatorId) (k : Coordinator) :
    Turns w.books (w.suspend c k).books := by
  rw [suspend_eq]
  -- the coordinator closes its gates, and is then at once or later suspended
  have hclose := closeAll_turns (.report c (k.generation + 1)) k.gates
    ((w.setCoordinator c k.closing).note (.entered c .suspending k.listeners))
  rw [note_books rfl, setCoordinator_books] at hclose
  simp only
  split
  · rw [complete_books]
    exact hclose
  · exact hclose

theorem resume_turns (w : World) (c : CoordinatorId) (k : Coordinator) :
    Turns w.books (w.resume c k).books := by
  unfold World.resume
  simp only
  have hopen := openAll_turns k.gates (w.enter c
    ({ k with generation := k.generation + 1, pending := none, suspendedAt := none }.notify .resumed)
    .running)
  rwa [enter_books] at hopen

theorem addGate_turns {k : Coordinator} {g : GateId} {x : Gate} (hx : w.gates g = some x) :
    Turns w.books (w.addGate c k g x).books := by
  have hclose := Relation.ReflTransGen.single (turn_beginDrain hx (.report c k.generation))
  unfold World.addGate
  split
  · exact turns_of_eq (alert_books _ _)
  · split
    · simp only
      split
      · exact hclose
      · rw [setCoordinator_books]
        split
        · exact hclose
        · rw [alert_books]
          exact hclose
    · exact .refl

theorem newGate_turn {g : GateId} (hg : w.gates g = none) (name : String) :
    Turn w.books (w.setGate g { name }).books :=
  .made (b := w.books) hg

theorem Change.turns {a b : Scene} (hab : Change w₀ move a b) (h : a.1.Sound) :
    Turns a.1.books b.1.books := by
  cases hab with
  | gateMade _ hg => exact .single (newGate_turn hg _)
  | @letIn w s g x p hg ho hp =>
    have hb : (w.letIn g x p).books =
        ⟨w.gates.set g (x.letIn p), w.issuer.set p g, .issued g p :: w.books.entries⟩ :=
      note_books_of_entry rfl
    rw [hb]
    exact .single (.issued (b := w.books) hg ho hp)
  | turnedAway hg _ =>
    rw [turnAway_eq hg (h.gates _ _ hg)]
    exact turns_of_eq (fire_books _ _ _ _ _)
  | @returned w s g x p y callback after hg hr =>
    have hb := fire_books ((w.setGate g y).note (.returned g p)) s g callback after
    rw [note_books_of_entry rfl] at hb
    exact (Relation.ReflTransGen.single (.returned (b := w.books) hg hr)).trans (turns_of_eq hb)
  | closed _ hg => exact .single (turn_beginDrain hg _)
  | reopened _ hg => exact .single (turn_reopen hg)
  | coordinatorMade _ => exact .refl
  | suspended _ _ _ =>
    exact (suspend_turns _ _ _).trans (turns_of_eq (dispatch_books _ _ _ _))
  | resumed _ _ _ _ =>
    exact (resume_turns _ _ _).trans (turns_of_eq (dispatch_books _ _ _ _))
  | gateAdded _ _ hg _ _ => exact addGate_turns hg
  | @gateRegistered w s c k g name _ _ hg _ =>
    exact (addGate_turns (Table.set_self _ _ _)).head (newGate_turn hg name)
  | gateRemoved _ _ _ =>
    exact turns_of_eq ((dispatch_books _ _ _ _).trans (strike_books _ _ _ _))
  | subscribed _ => exact turns_of_eq (note_books rfl)
  | declined => exact turns_of_eq (note_books rfl)
  | unsubscribed _ => exact turns_of_eq (note_books rfl)
  | shared _ _ | dropped _ => exact .refl
  | hookLeft => exact turns_of_eq (nextHook_books _ _ _ _ _ _)
  | callbackLeft | handlerEntered | handlerLeft => exact .refl
  | finished => exact turns_of_eq (finish_books _ _ _)
  | alerted => exact turns_of_eq (alert_books _ _)
  | @aside w w' s hg hi _ hj =>
    refine turns_of_eq ?_
    unfold World.books
    rw [hg, hi, hj]

/-- **What a run does to the books are turns.** -/
theorem run_turns (moves : List Move) : Turns {} (run {} moves).world.books := by
  have hkeep := run_keep (P := fun a => a.1.Sound ∧ Turns {} a.1.books) (m := {})
    (fun _ _ _ _ hab h => ⟨hab.sound h.1, h.2.trans (hab.turns h.1)⟩) ⟨sound_new, .refl⟩ moves
  exact hkeep.2

/-- What each turn keeps while the gates are sound holds after every run. -/
theorem run_books {P : Books → Prop} (hnew : P {})
    (hP : ∀ a b, (∀ g x, a.gates g = some x → x.Sound) → Turn a b → P a → P b) (moves : List Move) :
    P (run {} moves).world.books := by
  refine ((run_turns moves).keep (P := fun b => (∀ g x, b.gates g = some x → x.Sound) ∧ P b)
    (fun a b hab h => ⟨hab.sound h.1, hP a b h.1 hab h.2⟩) ⟨fun g x hx => ?_, hnew⟩).2
  simp at hx

end Machine

end Sluice
