import Sluice.Proofs.History
import Sluice.Proofs.Ledger

/-!
# Hooks are delivered once, in order, one at a time

The statement is about all runs: whoever opens and closes gates, and whatever the hooks call or panic with.

* `hooks`, `owed`: the hooks of a coordinator that are running, and the calls that their deliveries owe.
* `Apart`: nothing has happened to a coordinator's books, nor to its hooks.
* `Told`: a coordinator keeps its books, at most one of its hooks runs, and nothing is queued unless one
  does. `Change.told`: **every change keeps it**.
* `delivery_exact`: what has been entered, published and called in any run.
-/

namespace Sluice

open Computability

/-- A coordinator, or one to which nothing has happened. -/
def World.coordinator (w : World) (c : CoordinatorId) : Coordinator := (w.coordinators c).getD {}

/-- The hooks of a coordinator that are running, innermost first, each with the listeners that are still
to be told of the same. -/
def hooks (c : CoordinatorId) : List Activation → List (Hook × List Listener)
  | [] => []
  | .hook d h _ others _ :: s => if d = c then (h, others) :: hooks c s else hooks c s
  | _ :: s => hooks c s

/-- The calls that are still to be made once these hooks come back. -/
def owed (c : CoordinatorId) (s : List Activation) : List (Hook × Listener) :=
  (hooks c s).flatMap fun x => x.2.map fun l => (x.1, l)

/-- The coordinators differ in nothing that listeners learn. -/
structure Coordinator.SameBooks (k k' : Coordinator) : Prop where
  listeners : k'.listeners = k.listeners
  version : k'.version = k.version
  published : k'.published = k.published
  outbox : k'.outbox = k.outbox
  dispatching : k'.dispatching = k.dispatching

theorem Coordinator.SameBooks.refl (k : Coordinator) : k.SameBooks k := ⟨rfl, rfl, rfl, rfl, rfl⟩

theorem Coordinator.SameBooks.trans {k k' k'' : Coordinator} (h : k.SameBooks k')
    (h' : k'.SameBooks k'') : k.SameBooks k'' :=
  ⟨h'.listeners.trans h.listeners, h'.version.trans h.version, h'.published.trans h.published,
    h'.outbox.trans h.outbox, h'.dispatching.trans h.dispatching⟩

theorem Ledger.sameBooks {h : List Occurrence} {k k' : Coordinator} {o : List (Hook × Listener)}
    (hb : Ledger h k o) (hk : k.SameBooks k') : Ledger h k' o :=
  ⟨hb.listeners.trans hk.listeners.symm, hk.version.trans hb.version, hk.published ▸ hb.order,
    hk.outbox ▸ hb.due⟩

namespace World

variable {w : World} {c d : CoordinatorId} {k : Coordinator}

theorem coordinator_eq (hk : w.coordinators c = some k) : w.coordinator c = k := by
  unfold coordinator
  rw [hk]
  rfl

theorem coordinator_eq_new (hk : w.coordinators c = none) : w.coordinator c = {} := by
  unfold coordinator
  rw [hk]
  rfl

end World

namespace Machine

open World
open scoped List

variable {w w' : World} {s s' : List Activation} {c d : CoordinatorId} {k : Coordinator} {after : After}

/-! ## What leaves a coordinator's books alone -/

/-- Nothing has happened to a coordinator's books, nor to its hooks. -/
structure Apart (c : CoordinatorId) (a b : Scene) : Prop where
  history : b.1.history c = a.1.history c
  books : (a.1.coordinator c).SameBooks (b.1.coordinator c)
  hooks : hooks c b.2 = hooks c a.2

theorem Apart.trans {a b b' : Scene} (h : Apart c a b) (h' : Apart c b b') : Apart c a b' :=
  ⟨h'.history.trans h.history, h.books.trans h'.books, h'.hooks.trans h.hooks⟩

/-- The coordinator is the same. -/
theorem apart_of_eq (hh : w'.history c = w.history c) (hc : w'.coordinators c = w.coordinators c)
    (hs : hooks c s' = hooks c s) : Apart c (w, s) (w', s') := by
  refine ⟨hh, ?_, hs⟩
  simp only [World.coordinator, hc]
  exact .refl _

theorem apart_note {o : Occurrence} (ho : o.concerns c = false) : Apart c (w, s) (w.note o, s) := by
  refine apart_of_eq ?_ rfl rfl
  rw [history_note, ho]
  rfl

theorem apart_setCoordinator {k' : Coordinator} (hk : w.coordinators d = some k)
    (hb : k.SameBooks k') : Apart c (w, s) (w.setCoordinator d k', s) := by
  refine ⟨rfl, ?_, rfl⟩
  by_cases hdc : c = d
  · subst hdc
    rw [coordinator_eq hk, coordinator_eq (k := k') (Table.set_self _ _ _)]
    exact hb
  · simp only [World.coordinator, setCoordinator_coordinators, Table.set_of_ne _ _ hdc]
    exact .refl _

/-- Another coordinator has changed. -/
theorem apart_other (hdc : c ≠ d) : Apart c (w, s) (w.setCoordinator d k, s) :=
  apart_of_eq rfl (Table.set_of_ne _ _ hdc) rfl

theorem finish_apart (c : CoordinatorId) (w : World) (s : List Activation) (after : After) :
    Apart c (w, s) (finish w s after).scene := by
  have hr := finish_rests w s after
  refine ⟨hr.history c, ?_, congrArg (hooks c) (finish_stack w s after)⟩
  rcases hr.coordinators c with e | ⟨k, n, hk, -, e⟩
  · simp only [scene, World.coordinator, e]
    exact .refl _
  · simp only [scene, World.coordinator, e, hk]
    exact ⟨rfl, rfl, rfl, rfl, rfl⟩

theorem enterHook_apart {h : Hook} {l : Listener} {others : List Listener} (hdc : c ≠ d) :
    Apart c (w, s) (enterHook w s d h l others after).scene := by
  refine apart_of_eq ?_ rfl ?_
  · simp [enterHook, history_note, Occurrence.concerns, Ne.symm hdc]
  · simp [enterHook, hooks, Ne.symm hdc]

theorem deliver_apart (hdc : c ≠ d) : Apart c (w, s) (deliver w s d after).scene := by
  unfold deliver
  split
  · exact finish_apart c w s after
  · split
    · exact (apart_other hdc).trans (finish_apart c _ s after)
    · exact (apart_other hdc).trans (enterHook_apart hdc)

theorem dispatch_apart (hdc : c ≠ d) : Apart c (w, s) (dispatch w s d after).scene := by
  unfold dispatch
  split
  · exact finish_apart c w s after
  · split
    · exact finish_apart c w s after
    · exact (apart_other hdc).trans (deliver_apart hdc)

theorem nextHook_apart {h : Hook} {others : List Listener} (hdc : c ≠ d) :
    Apart c (w, s) (nextHook w s d h others after).scene := by
  unfold nextHook
  split
  · exact deliver_apart hdc
  · exact enterHook_apart hdc

/-! ## Deliveries -/

/-- A coordinator keeps its books, and one of its hooks runs just if it delivers. -/
structure Telling (c : CoordinatorId) (a : Scene) : Prop where
  ledger : Ledger (a.1.history c) (a.1.coordinator c) (owed c a.2)
  running : (hooks c a.2).length = if (a.1.coordinator c).dispatching = true then 1 else 0

/-- Nothing is queued, besides, unless the coordinator delivers. -/
structure Told (c : CoordinatorId) (a : Scene) : Prop extends Telling c a where
  idle : (a.1.coordinator c).dispatching = false → (a.1.coordinator c).outbox = []

/-- While no hook of a coordinator runs nothing is queued or being delivered. -/
theorem Told.resting (h : Told c (w, s)) (hk : w.coordinators c = some k) (hs : hooks c s = []) :
    k.outbox = [] ∧ k.dispatching = false := by
  have hc : w.coordinator c = k := coordinator_eq hk
  have hrunning := h.running
  have hidle := h.idle
  simp only [hc, hs, List.length_nil] at hrunning hidle
  have hd : k.dispatching = false := by
    by_contra hd
    rw [if_pos (by simpa using hd)] at hrunning
    cases hrunning
  exact ⟨hidle hd, hd⟩

theorem Telling.apart {a b : Scene} (h : Telling c a) (hab : Apart c a b) : Telling c b := by
  refine ⟨?_, ?_⟩
  · unfold owed
    rw [hab.history, hab.hooks]
    exact h.ledger.sameBooks hab.books
  · rw [hab.hooks, hab.books.dispatching]
    exact h.running

theorem Told.apart {a b : Scene} (h : Told c a) (hab : Apart c a b) : Told c b := by
  refine ⟨h.toTelling.apart hab, fun hd => ?_⟩
  rw [hab.books.dispatching] at hd
  rw [hab.books.outbox]
  exact h.idle hd

theorem told_enterHook {h : Hook} {l : Listener} {others : List Listener}
    (hk : w.coordinators c = some k) (hd : k.dispatching = true) (hs : hooks c s = [])
    (hb : Ledger (w.history c) k ((h, l) :: others.map fun x => (h, x))) :
    Told c (enterHook w s c h l others after).scene := by
  have hc : (enterHook w s c h l others after).world.coordinator c = k := coordinator_eq hk
  have hh : (enterHook w s c h l others after).world.history c = .called c h l :: w.history c := by
    simp [enterHook, history_note, Occurrence.concerns]
  have hst : hooks c (enterHook w s c h l others after).stack = [(h, others)] := by
    simp [enterHook, hooks, hs]
  refine ⟨⟨?_, ?_⟩, fun hd' => ?_⟩
  · simp only [scene, owed, hc, hh, hst, List.flatMap_cons, List.flatMap_nil, List.append_nil]
    exact hb.call
  · simp [scene, hc, hst, hd]
  · simp only [scene, hc, hd] at hd'
    cases hd'

/-- **A delivery goes on** with the next call, or ends when nothing is queued. -/
theorem told_deliver (hk : w.coordinators c = some k) (hd : k.dispatching = true)
    (hs : hooks c s = []) (hb : Ledger (w.history c) k []) :
    Told c (deliver w s c after).scene := by
  unfold deliver
  rw [hk]
  simp only
  split
  · -- the queue is empty, and the flag is cleared
    rename_i ho
    refine Told.apart ?_ (finish_apart c _ s after)
    have hc : (w.setCoordinator c { k with dispatching := false }).coordinator c =
        { k with dispatching := false } := coordinator_eq (Table.set_self _ _ _)
    refine ⟨⟨?_, ?_⟩, fun _ => ?_⟩
    · simp only [owed, hc, hs, List.flatMap_nil]
      exact ⟨hb.listeners, hb.version, hb.order, hb.due⟩
    · simp [hc, hs]
    · rw [hc]
      exact ho
  · -- the calls of the next notification are no longer queued but owed
    rename_i n rest ho
    refine told_enterHook (k := { k with outbox := rest }) (Table.set_self _ _ _) hd hs
      ⟨hb.listeners, hb.version, hb.order, ?_⟩
    have hdue := hb.due
    rw [ho] at hdue
    simpa [Notification.calls] using hdue

theorem Telling.dispatch (h : Telling c (w, s)) : Told c (dispatch w s c after).scene := by
  unfold Machine.dispatch
  cases hk : w.coordinators c with
  | none =>
    have hc := coordinator_eq_new hk
    have ht : Told c (w, s) := ⟨h, fun _ => by rw [hc]⟩
    exact ht.apart (finish_apart c w s after)
  | some k =>
    have hc := coordinator_eq hk
    have hrun := h.running
    have hb := h.ledger
    simp only [hc] at hrun hb
    simp only
    split
    · -- a hook is running further out, and its delivery comes to what has been queued
      rename_i hd
      have ht : Told c (w, s) := ⟨h, fun hd' => by rw [hc, hd] at hd'; cases hd'⟩
      exact ht.apart (finish_apart c w s after)
    · rename_i hd
      rw [if_neg hd] at hrun
      have hs : hooks c s = [] := List.eq_nil_of_length_eq_zero hrun
      rw [owed, hs] at hb
      exact told_deliver (k := { k with dispatching := true }) (Table.set_self _ _ _) rfl hs
        ⟨hb.listeners, hb.version, hb.order, hb.due⟩

/-- A hook comes back, and the delivery goes on. -/
theorem Told.nextHook {h : Hook} {l : Listener} {others : List Listener} {after' : After}
    (ht : Told c (w, .hook c h l others after' :: s)) :
    Told c (nextHook w s c h others after).scene := by
  have hrun := ht.running
  have hb := ht.ledger
  simp only [hooks, if_true, List.length_cons] at hrun
  -- one hook runs, so the coordinator delivers
  have hd : (w.coordinator c).dispatching = true := by
    by_contra hd
    rw [if_neg hd] at hrun
    omega
  rw [if_pos hd] at hrun
  have hs : hooks c s = [] := List.eq_nil_of_length_eq_zero (by omega)
  obtain ⟨k, hk⟩ : ∃ k, w.coordinators c = some k := by
    cases hk : w.coordinators c with
    | none => rw [coordinator_eq_new hk] at hd; cases hd
    | some k => exact ⟨k, rfl⟩
  have hc := coordinator_eq hk
  simp only [owed, hooks, if_true, hs, List.flatMap_cons, List.flatMap_nil, List.append_nil, hc] at hb
  rw [hc] at hd
  unfold Machine.nextHook
  cases others with
  | nil => exact told_deliver hk hd hs hb
  | cons l ls => exact told_enterHook hk hd hs hb

/-! ## Transitions -/

/-- After a transition of a coordinator its hooks are delivered. Others are not concerned. -/
theorem told_dispatch (h : c = d → Telling c (w, s)) (h' : c ≠ d → Told c (w, s)) :
    Told c (dispatch w s d after).scene := by
  by_cases hcd : c = d
  · subst hcd
    exact (h rfl).dispatch
  · exact (h' hcd).apart (dispatch_apart hcd)

theorem telling_of_ledger (hc : w.coordinator c = k) (hb : Ledger (w.history c) k (owed c s))
    (hrun : (hooks c s).length = if k.dispatching = true then 1 else 0) : Telling c (w, s) := by
  subst hc
  exact ⟨hb, hrun⟩

theorem Telling.suspend (h : Telling c (w, s)) (hk : w.coordinators c = some k)
    (hs : k.published = .running) : Telling c (w.suspend c k, s) := by
  have hb := h.ledger
  have hrun := h.running
  simp only [coordinator_eq hk] at hb hrun
  have hc : (w.suspend c k).coordinator c = k.suspendedWith (w.busy k.gates) w.date :=
    coordinator_eq (by rw [suspend_coordinators, Table.set_self])
  refine telling_of_ledger hc ?_ ?_
  · rw [suspend_history, if_pos rfl]
    unfold Coordinator.suspendedWith
    split
    · exact (hb.closing hs).completed rfl w.date
    · have hcl : Ledger (.entered c .suspending k.listeners :: w.history c) k.closing (owed c s) :=
        hb.closing hs
      exact ⟨hcl.listeners, hcl.version, hcl.order, hcl.due⟩
  · rw [hrun, Coordinator.suspendedWith_dispatching]

theorem suspend_apart (hcd : c ≠ d) : Apart c (w, s) (w.suspend d k, s) := by
  refine apart_of_eq ?_ ?_ rfl
  · rw [suspend_history, if_neg (Ne.symm hcd)]
  · rw [suspend_coordinators, Table.set_of_ne _ _ hcd]

theorem Telling.resume (h : Telling c (w, s)) (hk : w.coordinators c = some k)
    (hs : k.published ≠ .running) : Telling c (w.resume c k, s) := by
  have hb := h.ledger
  have hrun := h.running
  simp only [coordinator_eq hk] at hb hrun
  have hc : (w.resume c k).coordinator c = k.reopening :=
    coordinator_eq (by rw [resume_coordinators, Table.set_self])
  refine telling_of_ledger hc ?_ ?_
  · rw [resume_history, if_pos rfl]
    exact hb.reopening hs
  · rw [hrun, Coordinator.reopening_dispatching]

theorem resume_apart (hcd : c ≠ d) : Apart c (w, s) (w.resume d k, s) := by
  refine apart_of_eq ?_ ?_ rfl
  · rw [resume_history, if_neg (Ne.symm hcd)]
  · rw [resume_coordinators, Table.set_of_ne _ _ hcd]

/-- A gate is struck, for a coordinator that is in the books. -/
theorem Telling.strike {k' : Coordinator} (h : Telling c (w, s)) (hk : w.coordinators c = some k)
    (hkk : k.SameBooks k') (hs : ∀ p, k'.pending = some p → k'.published = .suspending) (g : GateId) :
    Telling c (w.strike c k' g, s) := by
  have hb := h.ledger.sameBooks (coordinator_eq hk ▸ hkk)
  have hrun := h.running
  simp only [coordinator_eq hk, ← hkk.dispatching] at hrun
  rcases strike_cases w c k' g with ⟨e, -, q, hq⟩ | ⟨e, -, p, hp, -⟩ <;> rw [e]
  · refine telling_of_ledger (coordinator_eq (Table.set_self _ _ _)) ?_ ?_
    · rw [hq]
      exact ⟨hb.listeners, hb.version, hb.order, hb.due⟩
    · rw [hq]
      exact hrun
  · refine telling_of_ledger (coordinator_eq (Table.set_self _ _ _)) ?_ ?_
    · simp only [history_note, Occurrence.concerns, decide_true, if_true]
      exact hb.completed (hs p hp) w.date
    · rw [hrun, Coordinator.completed_dispatching]

theorem strike_apart {g : GateId} (hcd : c ≠ d) : Apart c (w, s) (w.strike d k g, s) := by
  refine apart_of_eq ?_ ?_ rfl
  · rcases strike_cases w d k g with ⟨e, -⟩ | ⟨e, -⟩ <;> rw [e]
    · rfl
    · simp [history_note, Occurrence.concerns, Ne.symm hcd]
  · rw [strike_coordinators, Table.set_of_ne _ _ hcd]

theorem addGate_apart {g : GateId} {x : Gate} (hk : w.coordinators d = some k) (hs : k.Sound) :
    Apart c (w, s) (w.addGate d k g x, s) := by
  by_cases hg : g ∈ k.gates
  · rw [addGate_of_mem hg]
    exact apart_note rfl
  refine ⟨addGate_history, ?_, rfl⟩
  have hcoord := addGate_coordinators (w := w) (c := d) (x := x) hg hs
  by_cases hcd : c = d
  · subst hcd
    rw [coordinator_eq hk, coordinator_eq (by rw [hcoord, Table.set_self])]
    exact ⟨rfl, rfl, rfl, rfl, rfl⟩
  · simp only [World.coordinator, hcoord, Table.set_of_ne _ _ hcd]
    exact .refl _

/-- **A callback keeps the books**: what it completes is entered and delivered. -/
theorem Told.fire (h : Told c (w, s)) (hw : w.Sound) (g : GateId) (callback : Option DrainCallback)
    (after : After) : Told c (fire w s g callback after).scene := by
  rcases fire_cases w s g callback after with
    ⟨e, -⟩ | ⟨cb, -, ⟨code, -, e⟩ | ⟨d, n, k, -, hk, -, e⟩ | ⟨d, n, -, -, e⟩⟩ <;> rw [e]
  · exact h.apart (finish_apart c w s after)
  · have hn : Told c (w.note (.fired g cb), s) := h.apart (apart_note rfl)
    exact hn.apart (apart_of_eq rfl rfl rfl)
  · have hn : Told c (w.note (.fired g cb), s) := h.apart (apart_note rfl)
    rcases drained_cases (w.note (.fired g cb)) d k n g with ⟨e, -⟩ | ⟨e, -⟩ <;> rw [e]
    · -- the report is of this attempt
      refine told_dispatch (fun hcd => ?_) fun hcd => hn.apart (strike_apart hcd)
      subst hcd
      have hks := (hw.coordinators c k hk).sound
      exact hn.toTelling.strike hk (.refl k)
        (fun p hp => hks.published.trans (hks.state_of_pending hp)) g
    · exact told_dispatch (fun _ => hn.toTelling) fun _ => hn
  · exact (h.apart (apart_note rfl)).apart (finish_apart c _ s after)

theorem Told.suspend (h : Told c (w, s)) (hw : w.Sound) (hk : w.coordinators d = some k)
    (hs : k.state = .running) : Told c (dispatch (w.suspend d k) s d after).scene := by
  refine told_dispatch (fun hcd => ?_) fun hcd => h.apart (suspend_apart hcd)
  subst hcd
  exact h.toTelling.suspend hk ((hw.coordinators c k hk).sound.published.trans hs)

theorem Told.resume (h : Told c (w, s)) (hw : w.Sound) (hk : w.coordinators d = some k)
    (hs : k.state ≠ .running) : Told c (dispatch (w.resume d k) s d after).scene := by
  refine told_dispatch (fun hcd => ?_) fun hcd => h.apart (resume_apart hcd)
  subst hcd
  exact h.toTelling.resume hk ((hw.coordinators c k hk).sound.published ▸ hs)

theorem Told.removeGate (h : Told c (w, s)) (hw : w.Sound) (hk : w.coordinators d = some k)
    (g : GateId) : Told c (dispatch (w.removeGate d k g) s d after).scene := by
  refine told_dispatch (fun hcd => ?_) fun hcd => h.apart (strike_apart hcd)
  subst hcd
  have hks := (hw.coordinators c k hk).sound
  have hkk : k.SameBooks { k with gates := k.gates.filter (· ≠ g) } := ⟨rfl, rfl, rfl, rfl, rfl⟩
  exact h.toTelling.strike hk hkk (fun p hp => hks.published.trans (hks.state_of_pending hp)) g

theorem Told.newCoordinator (h : Told c (w, s)) (hd : w.coordinators d = none) :
    Told c (w.setCoordinator d {}, s) := by
  by_cases hcd : c = d
  · subst hcd
    refine h.apart ⟨rfl, ?_, rfl⟩
    rw [coordinator_eq_new hd, coordinator_eq (k := {}) (Table.set_self _ _ _)]
    exact .refl _
  · exact h.apart (apart_other hcd)

/-- Somebody subscribes or unsubscribes. -/
theorem Told.listen {k' : Coordinator} {o : Occurrence} (h : Told c (w, s))
    (hk : w.coordinators d = some k) (hd : k'.dispatching = k.dispatching)
    (hq : k'.outbox = k.outbox) (ho : o.concerns d = true) (hne : ∀ c, c ≠ d → o.concerns c = false)
    (hb : ∀ owed, Ledger (w.history d) k owed → Ledger (o :: w.history d) k' owed) :
    Told c ((w.setCoordinator d k').note o, s) := by
  by_cases hcd : c = d
  swap
  · exact (h.apart (apart_other hcd)).apart (apart_note (hne c hcd))
  subst hcd
  have hc := coordinator_eq hk
  have hc' : ((w.setCoordinator c k').note o).coordinator c = k' :=
    coordinator_eq (Table.set_self _ _ _)
  have hrun := h.running
  have hidle := h.idle
  have hl := h.ledger
  simp only [hc] at hrun hidle hl
  refine ⟨telling_of_ledger hc' ?_ (by rw [hd, hrun]), fun hd' => ?_⟩
  · rw [history_note, ho]
    exact hb _ hl
  · simp only [hc'] at hd' ⊢
    rw [hq, hidle (hd ▸ hd')]

/-- A listener that does not subscribe changes nothing in the books. -/
theorem Told.decline (h : Told c (w, s)) (l : Listener) (state : SuspendState) :
    Told c (w.note (.offered d l state false), s) := by
  by_cases hcd : c = d
  · subst hcd
    refine ⟨⟨?_, h.running⟩, h.idle⟩
    simp only [history_note, Occurrence.concerns, decide_true, if_true]
    exact h.ledger.decline state
  · exact h.apart (apart_note (by simp [Occurrence.concerns, Ne.symm hcd]))

/-- A hook of some coordinator comes back. -/
theorem Told.hookLeft {x : Hook} {l : Listener} {others : List Listener}
    (h : Told c (w, .hook d x l others after :: s)) :
    Told c (Machine.nextHook w s d x others after).scene := by
  by_cases hcd : c = d
  · subst hcd
    exact h.nextHook
  · have hpop : Apart c (w, .hook d x l others after :: s) (w, s) :=
      apart_of_eq rfl rfl (by simp [hooks, Ne.symm hcd])
    exact (h.apart hpop).apart (nextHook_apart hcd)

/-! ## Changes -/

/-- **Every change keeps the books** of every coordinator. -/
theorem Change.told {w₀ : World} {move : Move} {a b : Scene} (hab : Change w₀ move a b)
    (hw : a.1.Sound) (h : Told c a) : Told c b := by
  cases hab with
  | gateMade _ _ => exact h.apart (apart_of_eq rfl rfl rfl)
  | letIn _ _ _ => exact h.apart (apart_of_eq rfl rfl rfl)
  | @turnedAway w s g x after hx _ =>
    rw [turnAway_eq hx (hw.gates g x hx)]
    exact h.fire hw g none after
  | @returned w s g x p y callback after hx hr =>
    have hy := (hw.gates g x hx).release hr
    have hname := (Gate.release?_cases (hw.gates g x hx) hr).2.2.2.1
    have hset : (w.setGate g y).Sound := hw.changeGate hx hy hname rfl rfl
    have hn : Told c ((w.setGate g y).note (.returned g p), s) := h.apart (apart_of_eq rfl rfl rfl)
    exact hn.fire (hset.alike (alike_note _ _)) g callback after
  | closed _ _ => exact h.apart (apart_of_eq rfl rfl rfl)
  | reopened _ _ => exact h.apart (apart_of_eq rfl rfl rfl)
  | coordinatorMade hd => exact h.newCoordinator hd
  | suspended hk _ hs => exact h.suspend hw hk hs
  | resumed _ hk _ hs => exact h.resume hw hk hs
  | @gateAdded s d k g x _ hk _ _ _ =>
    exact h.apart (addGate_apart hk (hw.coordinators d k hk).sound)
  | @gateRegistered w s d k g name _ hk hg _ =>
    have hv : Apart c (w, s) (w.setGate g { name }, s) := apart_of_eq rfl rfl rfl
    exact (h.apart hv).apart (addGate_apart hk (hw.coordinators d k hk).sound)
  | gateRemoved _ hk _ => exact h.removeGate hw hk _
  | @subscribed w s d k l hk =>
    refine h.listen hk rfl rfl (by simp [Occurrence.concerns]) (fun c hcd => ?_) fun _ hb => ?_
    · simp [Occurrence.concerns, Ne.symm hcd]
    · exact hb.subscribe k.state
  | declined => exact h.decline _ _
  | @unsubscribed w s d k l hk =>
    refine h.listen hk rfl rfl (by simp [Occurrence.concerns]) (fun c hcd => ?_) fun _ hb => ?_
    · simp [Occurrence.concerns, Ne.symm hcd]
    · exact hb.unsubscribe l
  | shared hk _ => exact h.apart (apart_setCoordinator hk ⟨rfl, rfl, rfl, rfl, rfl⟩)
  | dropped hk => exact h.apart (apart_setCoordinator hk ⟨rfl, rfl, rfl, rfl, rfl⟩)
  | hookLeft => exact h.hookLeft
  | callbackLeft | handlerEntered | handlerLeft => exact h.apart (apart_of_eq rfl rfl rfl)
  | finished => exact h.apart (finish_apart c _ _ _)
  | alerted => exact h.apart (apart_note rfl)
  | aside _ _ hc hj =>
    refine h.apart (apart_of_eq ?_ (by rw [hc]) rfl)
    unfold World.history
    rw [hj]

/-! ## Runs -/

theorem told_new (c : CoordinatorId) : Told c (scene {}) :=
  ⟨⟨ledger_new, rfl⟩, fun _ => rfl⟩

theorem run_told (moves : List Move) (c : CoordinatorId) : Told c (run {} moves).scene := by
  refine (run_keep (P := fun a => a.1.Sound ∧ Told c a) (m := {}) ?_ ⟨sound_new, told_new c⟩ moves).2
  intro w₀ move a b hab ⟨hw, h⟩
  exact ⟨hab.sound hw, hab.told hw h⟩

/-- **Hooks are delivered exactly once and in order.** In any run the transitions of a coordinator are
attempts one after another. What watchers have seen at any time, under a version, is the transition of
that number. The hook calls are those that are due, as far as they have been made, and at most one hook
runs. When none does every call has been made, nothing is queued, and no delivery is under way. -/
theorem delivery_exact (moves : List Move) (c : CoordinatorId) :
    let m := run {} moves
    let h := m.world.history c
    transitions h ∈ undone∗ * underWay ∧
      (m.world.coordinator c).version = (transitions h).length ∧
      (∀ pre, pre <+: moves →
        let k := (run {} pre).world.coordinator c
        k.published = ((transitions h).take k.version).getLast?.getD .running) ∧
      calls h <+: due h ∧ (hooks c m.stack).length ≤ 1 ∧
      (hooks c m.stack = [] → calls h = due h ∧ (m.world.coordinator c).outbox = [] ∧
        (m.world.coordinator c).dispatching = false) := by
  intro m h
  have ht := run_told moves c
  have hb : Ledger h (m.world.coordinator c) (owed c m.stack) := ht.ledger
  refine ⟨hb.order.mem, hb.version, ?_, ?_, ?_, fun hs => ?_⟩
  · -- what was entered by then is where the list of now begins
    rintro pre ⟨more, rfl⟩ k
    have hpre : Ledger ((run {} pre).world.history c) k (owed c (run {} pre).stack) :=
      (run_told pre c).ledger
    obtain ⟨new, hnew⟩ : Grows c (run {} pre).world m.world := by
      have hg := run_grows (run {} pre) more c
      rwa [← run_append] at hg
    have hh : transitions h = transitions ((run {} pre).world.history c) ++ transitions new := by
      rw [← transitions_append, hnew]
    rw [hh, hpre.version, List.take_left]
    exact hpre.order.last.symm
  · rw [hb.due]
    exact List.prefix_append _ _
  · have hrun : (hooks c m.stack).length = _ := ht.running
    rw [hrun]
    split <;> omega
  · have hrun : (hooks c m.stack).length =
        if (m.world.coordinator c).dispatching = true then 1 else 0 := ht.running
    have hd : (m.world.coordinator c).dispatching = false := by
      rw [hs] at hrun
      by_contra hd
      rw [if_pos (by simpa using hd)] at hrun
      cases hrun
    have hq : (m.world.coordinator c).outbox = [] := ht.idle hd
    refine ⟨?_, hq, hd⟩
    rw [hb.due, owed, hs, hq]
    simp

/-- A hook resumes the coordinator, and another panics: each transition is told of all the same. -/
theorem delivery_exact_reentrant :
    let c : CoordinatorId := ⟨0⟩
    let l : Listener := ⟨⟨0⟩, "l"⟩
    let moves : List Move := [.call (.newCoordinator c), .call (.addListener c l fun _ => .accept),
      .call (.suspend c), .call (.resume c), .ret {}, .panic .other, .ret {}]
    let m := run {} moves
    hooks c m.stack = [] ∧ calls (m.world.history c) = due (m.world.history c) ∧
      due (m.world.history c) = [(.suspendStarted, l), (.suspendComplete, l), (.resumed, l)] := by
  intro c l moves m
  have hs : hooks c m.stack = [] := by decide +kernel
  obtain ⟨-, -, -, -, -, hquiet⟩ := delivery_exact moves c
  exact ⟨hs, (hquiet hs).1, by decide +kernel⟩

end Machine

end Sluice
