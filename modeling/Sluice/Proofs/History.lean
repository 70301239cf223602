import Sluice.Proofs.Sound

/-!
# Histories grow

* `Adds`: what has happened to a coordinator stays in its history, and nobody has subscribed since.
  `Change.adds`: **nothing that a run does takes it back**, and who subscribes does nothing else.
* `Grows`, `run_grows`: the same for whole runs, whoever subscribes.
-/

namespace Sluice

/-- The listener that has subscribed. -/
def Occurrence.subscribes? : Occurrence → Option ListenerId
  | .offered _ l _ true => some l.id
  | _ => none

namespace Machine

open World

variable {w w' : World} {s : List Activation} {c d : CoordinatorId} {k : Coordinator} {after : After}

/-- What has happened to a coordinator stays in its history, and nobody has subscribed since. -/
def Adds (c : CoordinatorId) (w w' : World) : Prop :=
  ∃ new, w'.history c = new ++ w.history c ∧ ∀ o ∈ new, o.subscribes? = none

theorem Adds.of_eq (h : w'.history c = w.history c) : Adds c w w' := ⟨[], h, nofun⟩

theorem Adds.trans {w'' : World} (h : Adds c w w') (h' : Adds c w' w'') : Adds c w w'' := by
  obtain ⟨new, hh, hn⟩ := h
  obtain ⟨new', hh', hn'⟩ := h'
  refine ⟨new' ++ new, by rw [hh', hh, List.append_assoc], fun o ho => ?_⟩
  rcases List.mem_append.1 ho with ho | ho
  · exact hn' o ho
  · exact hn o ho

theorem adds_note (c : CoordinatorId) (w : World) {o : Occurrence} (ho : o.subscribes? = none) :
    Adds c w (w.note o) := by
  unfold Adds
  rw [history_note]
  split
  · exact ⟨[o], rfl, fun q hq => by rw [List.mem_singleton.1 hq, ho]⟩
  · exact ⟨[], rfl, nofun⟩

theorem deliver_adds (c : CoordinatorId) : Adds c w (deliver w s d after).world := by
  unfold deliver
  split
  · exact .of_eq ((finish_rests w s after).history c)
  · split
    · exact .of_eq ((finish_rests _ s after).history c)
    · exact adds_note c (w.setCoordinator d _) rfl

theorem dispatch_adds (c : CoordinatorId) : Adds c w (dispatch w s d after).world := by
  unfold dispatch
  split
  · exact .of_eq ((finish_rests w s after).history c)
  · split
    · exact .of_eq ((finish_rests w s after).history c)
    · exact deliver_adds (w := w.setCoordinator d _) c

theorem nextHook_adds {h : Hook} {others : List Listener} (c : CoordinatorId) :
    Adds c w (nextHook w s d h others after).world := by
  unfold nextHook
  split
  · exact deliver_adds c
  · exact adds_note c w rfl

theorem strike_adds (c : CoordinatorId) (g : GateId) : Adds c w (w.strike d k g) := by
  rcases strike_cases w d k g with ⟨e, -⟩ | ⟨e, -⟩ <;> rw [e]
  · exact .of_eq rfl
  · exact adds_note c (w.setCoordinator d _) rfl

theorem fire_adds (c : CoordinatorId) (g : GateId) (callback : Option DrainCallback) :
    Adds c w (fire w s g callback after).world := by
  rcases fire_cases w s g callback after with
    ⟨e, -⟩ | ⟨cb, -, ⟨code, -, e⟩ | ⟨d, n, k, -, -, -, e⟩ | ⟨d, n, -, -, e⟩⟩ <;> rw [e]
  · exact .of_eq ((finish_rests w s after).history c)
  · exact adds_note c w rfl
  · have hn : Adds c w (w.note (.fired g cb)) := adds_note c w rfl
    have hd : Adds c (w.note (.fired g cb)) ((w.note (.fired g cb)).drained d k n g) := by
      rcases drained_cases (w.note (.fired g cb)) d k n g with ⟨e, -⟩ | ⟨e, -⟩ <;> rw [e]
      · exact strike_adds c g
      · exact .of_eq rfl
    exact (hn.trans hd).trans (dispatch_adds c)
  · exact (adds_note c w rfl).trans (.of_eq ((finish_rests _ s after).history c))

theorem suspend_adds (c : CoordinatorId) : Adds c w (w.suspend d k) := by
  unfold Adds
  rw [suspend_history]
  split
  · refine ⟨_ ++ [.entered d .suspending k.listeners], List.append_cons _ _ _, fun o ho => ?_⟩
    -- nothing but transitions
    split at ho
    · simp only [List.mem_append, List.mem_singleton] at ho
      rcases ho with rfl | rfl <;> rfl
    · rw [List.nil_append, List.mem_singleton] at ho
      rw [ho]
      rfl
  · exact ⟨[], rfl, nofun⟩

theorem resume_adds (c : CoordinatorId) : Adds c w (w.resume d k) := by
  unfold Adds
  rw [resume_history]
  split
  · refine ⟨[.entered d .running k.listeners], rfl, fun o ho => ?_⟩
    rw [List.mem_singleton.1 ho]
    rfl
  · exact ⟨[], rfl, nofun⟩

/-- **A change takes nothing back**, and one in which a listener subscribes does nothing else. -/
theorem Change.adds {w₀ : World} {move : Move} {a b : Scene} (hab : Change w₀ move a b)
    (c : CoordinatorId) :
    Adds c a.1 b.1 ∨ ∃ k l, a.1.coordinators c = some k ∧
      b.1.history c = .offered c l k.state true :: a.1.history c := by
  cases hab with
  | gateMade _ _ => exact .inl (.of_eq rfl)
  | letIn _ _ _ => exact .inl (.of_eq rfl)
  | @turnedAway w s g x after _ _ =>
    have hset : Adds c w (w.turnAway g x).1 := .of_eq rfl
    exact .inl (hset.trans (fire_adds c g _))
  | @returned w s g x p y callback after _ _ =>
    have hset : Adds c w ((w.setGate g y).note (.returned g p)) := .of_eq rfl
    exact .inl (hset.trans (fire_adds c g _))
  | closed _ _ => exact .inl (.of_eq rfl)
  | reopened _ _ => exact .inl (.of_eq rfl)
  | coordinatorMade _ => exact .inl (.of_eq rfl)
  | suspended _ _ _ => exact .inl ((suspend_adds c).trans (dispatch_adds c))
  | resumed _ _ _ _ => exact .inl ((resume_adds c).trans (dispatch_adds c))
  | gateAdded _ _ _ _ _ => exact .inl (.of_eq addGate_history)
  | gateRegistered _ _ _ _ => exact .inl (.of_eq addGate_history)
  | gateRemoved _ _ _ => exact .inl ((strike_adds c _).trans (dispatch_adds c))
  | @subscribed w s d k l hk =>
    by_cases hcd : d = c
    · subst hcd
      refine .inr ⟨k, l, hk, ?_⟩
      simp only [history_note, Occurrence.concerns, decide_true, if_true]
      rfl
    · refine .inl (.of_eq ?_)
      simp only [history_note, Occurrence.concerns, hcd, decide_false, Bool.false_eq_true, if_false]
      rfl
  | declined => exact .inl (adds_note c _ rfl)
  | @unsubscribed w s d k l _ => exact .inl (adds_note c (w.setCoordinator d _) rfl)
  | shared _ _ => exact .inl (.of_eq rfl)
  | dropped _ => exact .inl (.of_eq rfl)
  | hookLeft => exact .inl (nextHook_adds c)
  | callbackLeft | handlerEntered | handlerLeft => exact .inl (.of_eq rfl)
  | finished => exact .inl (.of_eq ((finish_rests _ _ _).history c))
  | alerted => exact .inl (adds_note c _ rfl)
  | aside _ _ _ hj =>
    refine .inl (.of_eq ?_)
    unfold World.history
    rw [hj]

/-! ## Runs -/

/-- What has happened to a coordinator stays in its history. -/
def Grows (c : CoordinatorId) (w w' : World) : Prop := w.history c <:+ w'.history c

theorem Grows.of_eq (h : w'.history c = w.history c) : Grows c w w' := ⟨[], h.symm⟩

theorem Grows.trans {w'' : World} (h : Grows c w w') (h' : Grows c w' w'') : Grows c w w'' :=
  List.IsSuffix.trans h h'

theorem Change.grows {w₀ : World} {move : Move} {a b : Scene} (hab : Change w₀ move a b)
    (c : CoordinatorId) : Grows c a.1 b.1 := by
  rcases hab.adds c with ⟨new, hh, -⟩ | ⟨k, l, -, hh⟩
  · exact ⟨new, hh.symm⟩
  · exact ⟨[_], hh.symm⟩

theorem run_grows (m : Machine) (moves : List Move) (c : CoordinatorId) :
    Grows c m.world (run m moves).world := by
  refine run_keep (P := fun a => Grows c m.world a.1) ?_ (.of_eq rfl) moves
  intro w₀ move a b hab h
  exact h.trans (hab.grows c)

end Machine

end Sluice
