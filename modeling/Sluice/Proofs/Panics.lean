import Sluice.Proofs.Change
import Sluice.Proofs.Journal

/-!
# Listeners that panic

Nobody but the log learns that a listener has panicked. A run in which listeners panic is compared with
the run of the same code in which each hook comes back where it would have panicked, and each listener
that would have panicked at the offer declines: the machine goes through the same states, and the journals
differ by one alert for each panic.

* `Move.calm`, `calmed`: the moves without the panics. `Move.panic?`, `panics`: the panics.
* `step_calm`: **a panic is an alert and then the calm move**.
* `reread_step`, `step_panics`: a move in which no listener panics does not look at the journal, and adds
  no such alert to it.
* `run_calmed`, `run_panics`: the two runs, and the alerts.
* `panics_invisible`: all of it, and that no panic of a listener comes out of an operation.
-/

namespace Sluice

/-- The same answer, but a listener that panics declines. -/
def Offer.calm : Offer → Offer
  | panic _ => decline
  | o => o

/-- The same call, but a listener that would panic at the offer declines. -/
def Op.calm : Op → Op
  | addListener c l offer => addListener c l fun s => (offer s).calm
  | op => op

/-- The alerts of listeners' panics, newest first. -/
def World.panics (w : World) : List Occurrence := w.journal.filter (·.isPanic)

namespace Reading

/-- Leaves out the panics of listeners. -/
def hush : Reading where
  read j := j.filter (!·.isPanic)
  read_cons o j ho := by rw [List.filter_cons, ho]; rfl

/-- Appends the panics of listeners once more. -/
def echo : Reading where
  read j := j ++ j.filter (·.isPanic)
  read_cons o j ho := by rw [List.filter_cons, ho]; rfl

/-- Appends a journal. -/
def before (old : List Occurrence) : Reading where
  read j := j ++ old
  read_cons _ _ _ := rfl

end Reading

namespace Machine

open Http World

/-- The machine with the journal that says nothing of listeners' panics. -/
def hushed (m : Machine) : Machine := m.reread .hush

/-- The machine after an alert, if there is one. -/
def alerted (m : Machine) : Option Alert → Machine
  | none => m
  | some a => { m with world := m.world.alert a }

/-- The same move of the same code, but no listener panics: a hook comes back. -/
def Move.calm (stack : List Activation) : Move → Move
  | .call op => .call op.calm
  | .panic payload =>
    match stack with
    | .hook .. :: _ => .ret {}
    | _ => .panic payload
  | move => move

/-- The alert of the listener that panics in a move, if one does. -/
def Move.panic? (m : Machine) (move : Move) : Option Alert :=
  if m.signal = .aborted then none
  else
    match move with
    | .call (.addListener c l offer) =>
      match (m.world.coordinators c).map fun k => offer k.state with
      | some (.panic payload) => some (.listenerPanicked l.name "listener_added" payload)
      | _ => none
    | .panic payload =>
      match m.stack with
      | .hook _ h l _ _ :: _ => some (.listenerPanicked l.name h.name payload)
      | _ => none
    | _ => none

/-- The moves of a run without the panics of listeners. -/
def calmed (m : Machine) : List Move → List Move
  | [] => []
  | move :: moves => move.calm m.stack :: calmed (step m move) moves

/-- The alerts of the listeners that panic in a run, in order. -/
def panics (m : Machine) : List Move → List Alert
  | [] => []
  | move :: moves => (move.panic? m).toList ++ panics (step m move) moves

variable {m m' : Machine} {move : Move}

/-! ## Moves -/

theorem panic?_hook {c : CoordinatorId} {h : Hook} {l : Listener} {others : List Listener}
    {after : After} {rest : List Activation} (hm : m.signal ≠ .aborted)
    (hs : m.stack = .hook c h l others after :: rest) (payload : Payload) :
    (Move.panic payload).panic? m = some (.listenerPanicked l.name h.name payload) := by
  unfold Move.panic?
  rw [if_neg hm, hs]

theorem panic?_offer (hm : m.signal ≠ .aborted) (c : CoordinatorId) (l : Listener)
    (offer : SuspendState → Offer) :
    (Move.call (.addListener c l offer)).panic? m =
      match (m.world.coordinators c).map fun k => offer k.state with
      | some (.panic payload) => some (.listenerPanicked l.name "listener_added" payload)
      | _ => none := if_neg hm

/-- It is the panic of a hook that is running, or of a listener that is offered a state. -/
theorem panic?_eq_some {a : Alert} (h : move.panic? m = some a) :
    m.signal ≠ .aborted ∧
      ((∃ c hook l others after rest payload, m.stack = .hook c hook l others after :: rest ∧
          move = .panic payload ∧ a = .listenerPanicked l.name hook.name payload) ∨
        ∃ c l offer k payload, move = .call (.addListener c l offer) ∧ m.world.coordinators c = some k ∧
          offer k.state = .panic payload ∧ a = .listenerPanicked l.name "listener_added" payload) := by
  unfold Move.panic? at h
  split at h
  · cases h
  rename_i hm
  refine ⟨hm, ?_⟩
  split at h
  · rename_i c l offer
    split at h
    · rename_i payload hk
      obtain ⟨k, hk, ho⟩ := Option.map_eq_some_iff.1 hk
      exact .inr ⟨c, l, offer, k, payload, rfl, hk, ho, (Option.some.inj h).symm⟩
    · cases h
  · rename_i payload
    split at h
    · rename_i c hook l others after rest hs
      exact .inl ⟨c, hook, l, others, after, rest, payload, hs, rfl, (Option.some.inj h).symm⟩
    · cases h
  · cases h

/-- A hook comes back instead of panicking, and other code panics as before. -/
theorem Move.calm_panic (stack : List Activation) (payload : Payload) :
    (∃ c h l others after rest, stack = .hook c h l others after :: rest ∧
        (Move.panic payload).calm stack = .ret {}) ∨
      (∀ c h l others after rest, stack ≠ .hook c h l others after :: rest) ∧
        (Move.panic payload).calm stack = .panic payload := by
  simp only [Move.calm]
  split
  · exact .inl ⟨_, _, _, _, _, _, rfl, rfl⟩
  · rename_i hs
    exact .inr ⟨hs, rfl⟩

theorem addListener_calm (w : World) (s : List Activation) (c : CoordinatorId) (l : Listener)
    (offer : SuspendState → Offer)
    (ho : ∀ k payload, w.coordinators c = some k → offer k.state ≠ .panic payload) :
    addListener w s c l (fun x => (offer x).calm) = addListener w s c l offer := by
  unfold addListener
  cases hk : w.coordinators c with
  | none => rfl
  | some k =>
    simp only
    cases hof : offer k.state with
    | accept | decline => rfl
    | panic payload => exact absurd hof (ho k payload hk)

/-- Where no listener panics the calm move is the same. -/
theorem step_calm_of_none (h : move.panic? m = none) :
    step m (move.calm m.stack) = step m move := by
  by_cases hm : m.signal = .aborted
  · unfold step
    rw [if_pos hm, if_pos hm]
  cases move with
  | ret | park => rfl
  | panic payload =>
    rcases Move.calm_panic m.stack payload with ⟨c, hook, l, others, after, rest, hs, -⟩ | ⟨-, e⟩
    · rw [panic?_hook hm hs payload] at h
      cases h
    · rw [e]
  | call op =>
    cases op with
    | addListener c l offer =>
      unfold step
      rw [if_neg hm, if_neg hm]
      refine addListener_calm m.world m.stack c l offer fun k payload hk ho => ?_
      rw [panic?_offer hm, hk, Option.map_some, ho] at h
      cases h
    | _ => rfl

/-- **A listener's panic is an alert and then the calm move.** -/
theorem step_calm (m : Machine) (move : Move) :
    step m move = step (m.alerted (move.panic? m)) (move.calm m.stack) := by
  cases h : move.panic? m with
  | none => exact (step_calm_of_none h).symm
  | some a =>
    obtain ⟨hm, ⟨c, hook, l, others, after, rest, payload, hs, rfl, rfl⟩ |
      ⟨c, l, offer, k, payload, rfl, hk, ho, rfl⟩⟩ := panic?_eq_some h
    · unfold step Move.calm
      simp only [alerted, if_neg hm, hs, panic, ret]
    · unfold step Move.calm
      simp only [alerted, if_neg hm, Op.calm, perform, addListener, alert_coordinators, hk, ho,
        Offer.calm]

theorem Offer.calm_ne (o : Offer) (payload : Payload) : o.calm ≠ .panic payload := by
  cases o <;> nofun

/-- In a calm move no listener panics. -/
theorem panic?_calm (hs : m'.stack = m.stack) (move : Move) :
    (move.calm m.stack).panic? m' = none := by
  by_contra h
  obtain ⟨a, ha⟩ := Option.ne_none_iff_exists'.1 h
  obtain ⟨-, ⟨c, hook, l, others, after, rest, thrown, hs', hmove, -⟩ |
    ⟨c, l, offer, k, thrown, hmove, -, ho, -⟩⟩ := panic?_eq_some ha
  · -- a hook that is running comes back
    cases move with
    | call | ret | park => cases hmove
    | panic payload =>
      rcases Move.calm_panic m.stack payload with ⟨_, _, _, _, _, _, -, e⟩ | ⟨hno, -⟩
      · rw [e] at hmove
        cases hmove
      · exact hno c hook l others after rest (hs ▸ hs')
  · -- a listener does not panic at the offer
    cases move with
    | ret | park => cases hmove
    | panic payload =>
      rcases Move.calm_panic m.stack payload with ⟨_, _, _, _, _, _, -, e⟩ | ⟨-, e⟩ <;>
        rw [e] at hmove <;> cases hmove
    | call op =>
      cases op with
      | addListener c' l' offer' =>
        simp only [Move.calm, Op.calm, Move.call.injEq, Op.addListener.injEq] at hmove
        rw [← hmove.2.2] at ho
        exact Offer.calm_ne _ _ ho
      | _ => cases hmove

/-- **A move in which no listener panics** does the same whatever the journal says. -/
theorem reread_step (e : Reading) (h : move.panic? m = none) :
    step (m.reread e) move = (step m move).reread e := by
  unfold step
  rw [reread_signal]
  split
  · rfl
  rename_i hm
  simp only [reread_world, reread_stack]
  cases move with
  | call op =>
    refine reread_perform e m.world m.stack op ?_
    rintro c l offer k payload rfl hk ho
    rw [panic?_offer hm, hk, Option.map_some, ho] at h
    cases h
  | ret r => exact reread_ret e m.world m.stack r
  | panic payload =>
    refine reread_panic e m.world m.stack payload fun c hook l others after rest hs => ?_
    rw [panic?_hook hm hs payload] at h
    cases h
  | park r => exact reread_park e m.world m.stack r

/-- A move in which no listener panics adds no such alert. What it adds does not depend on what the
journal ends with; so one that ends with the panics that are in it cannot be told from one that ends with
those of before. -/
theorem step_panics_of_none (h : move.panic? m = none) :
    (step m move).world.panics = m.world.panics := by
  have hold : m.reread .echo = m.reread (.before m.world.panics) := rfl
  have hnew : (step m move).reread .echo = (step m move).reread (.before m.world.panics) := by
    rw [← reread_step .echo h, hold, reread_step (.before m.world.panics) h]
  have hj : (step m move).world.journal ++ (step m move).world.panics =
      (step m move).world.journal ++ m.world.panics := congrArg (·.world.journal) hnew
  exact List.append_cancel_left hj

@[simp] theorem alerted_stack (m : Machine) (a : Option Alert) : (m.alerted a).stack = m.stack := by
  cases a <;> rfl

@[simp] theorem alerted_signal (m : Machine) (a : Option Alert) : (m.alerted a).signal = m.signal := by
  cases a <;> rfl

theorem hushed_alerted (m : Machine) (move : Move) :
    (m.alerted (move.panic? m)).hushed = m.hushed := by
  cases h : move.panic? m with
  | none => rfl
  | some a =>
    obtain ⟨-, ⟨_, _, _, _, _, _, _, -, -, rfl⟩ | ⟨_, _, _, _, _, -, -, -, rfl⟩⟩ := panic?_eq_some h <;>
      rfl

/-- One more alert for the listener that panics in a move. -/
theorem step_panics (m : Machine) (move : Move) :
    (step m move).world.panics = (move.panic? m).toList.map .alerted ++ m.world.panics := by
  rw [step_calm, step_panics_of_none (panic?_calm (alerted_stack m _) move)]
  cases h : move.panic? m with
  | none => rfl
  | some a =>
    obtain ⟨-, ⟨_, _, _, _, _, _, _, -, -, rfl⟩ | ⟨_, _, _, _, _, -, -, -, rfl⟩⟩ := panic?_eq_some h <;>
      rfl

/-- **The move and the calm move**, out of states that differ by panics only. -/
theorem step_hushed (h : m'.hushed = m.hushed) :
    (step m' (move.calm m.stack)).hushed = (step m move).hushed := by
  have hs : m'.stack = m.stack := congrArg (·.stack) h
  calc (step m' (move.calm m.stack)).hushed
      = step m'.hushed (move.calm m.stack) := (reread_step .hush (panic?_calm hs move)).symm
    _ = step (m.alerted (move.panic? m)).hushed (move.calm m.stack) := by rw [h, hushed_alerted]
    _ = (step (m.alerted (move.panic? m)) (move.calm m.stack)).hushed :=
      reread_step .hush (panic?_calm (alerted_stack m _) move)
    _ = (step m move).hushed := by rw [← step_calm]

/-- States that differ by panics only differ in their journals only. -/
theorem eq_of_hushed (h : m'.hushed = m.hushed) :
    m' = { m with world := { m.world with journal := m'.world.journal } } ∧
      m'.world.journal.filter (!·.isPanic) = m.world.journal.filter (!·.isPanic) := by
  refine ⟨?_, congrArg (·.world.journal) h⟩
  obtain ⟨⟨_, _, _, _, _, _, _, _, _⟩, _, _⟩ := m
  obtain ⟨⟨_, _, _, _, _, _, _, _, _⟩, _, _⟩ := m'
  simp only [hushed, reread, World.reread, Machine.mk.injEq, World.mk.injEq] at h ⊢
  obtain ⟨⟨hg, hi, hc, hs, hd, hw, ht, hm, -⟩, hstack, hsignal⟩ := h
  exact ⟨⟨hg, hi, hc, hs, hd, hw, ht, hm, trivial⟩, hstack, hsignal⟩

/-! ## What leaves an operation -/

section Raised

variable {w : World} {s : List Activation} {c : CoordinatorId} {after : After} {payload : Payload}

/-- An operation that is over goes on with a panic only if it was to. -/
theorem finish_raised (h : (finish w s after).signal = .raised payload) : after = .raise payload := by
  unfold finish at h
  split at h
  · cases h
  · split at h <;> cases h
  · split at h <;> cases h
  · unfold firstPoll at h
    split at h
    · cases h
    · simp only at h
      split at h <;> cases h
  · cases h
    rfl

theorem deliver_raised (h : (deliver w s c after).signal = .raised payload) :
    after = .raise payload := by
  unfold deliver at h
  split at h
  · exact finish_raised h
  · split at h
    · exact finish_raised h
    · cases h

theorem nextHook_raised {hook : Hook} {others : List Listener}
    (h : (nextHook w s c hook others after).signal = .raised payload) : after = .raise payload := by
  unfold nextHook at h
  split at h
  · exact deliver_raised h
  · cases h

end Raised

/-- A listener's panic does not leave the operation. What leaves is a panic that was on its way before
the hook was called. -/
theorem raised_of_panic? {a : Alert} {payload : Payload} (h : move.panic? m = some a)
    (hr : (step m move).signal = .raised payload) :
    ∃ c hook l others rest, m.stack = .hook c hook l others (.raise payload) :: rest := by
  obtain ⟨hm, ⟨c, hook, l, others, after, rest, thrown, hs, rfl, -⟩ |
    ⟨c, l, offer, k, thrown, rfl, hk, ho, -⟩⟩ := panic?_eq_some h
  · suffices he : after = .raise payload from ⟨c, hook, l, others, rest, he ▸ hs⟩
    unfold step at hr
    simp only [if_neg hm, hs, panic] at hr
    exact nextHook_raised hr
  · unfold step at hr
    simp only [if_neg hm, perform, addListener, hk, ho, reply] at hr
    cases hr

/-! ## Runs -/

theorem length_calmed (m : Machine) (moves : List Move) : (calmed m moves).length = moves.length := by
  induction moves generalizing m with
  | nil => rfl
  | cons move moves ih => simp only [calmed, List.length_cons, ih]

theorem calmed_take (m : Machine) (moves : List Move) (n : Nat) :
    calmed m (moves.take n) = (calmed m moves).take n := by
  induction moves generalizing m n with
  | nil => simp only [List.take_nil, calmed]
  | cons move moves ih =>
    cases n with
    | zero => rfl
    | succ n => simp only [List.take_succ_cons, calmed, ih]

/-- **The run and the calm run** differ by panics only. -/
theorem run_calmed (h : m'.hushed = m.hushed) (moves : List Move) :
    (run m' (calmed m moves)).hushed = (run m moves).hushed := by
  induction moves generalizing m m' with
  | nil => exact h
  | cons move moves ih => exact ih (step_hushed h)

/-- In the calm run no listener panics. -/
theorem panics_calmed (h : m'.hushed = m.hushed) (moves : List Move) :
    panics m' (calmed m moves) = [] := by
  induction moves generalizing m m' with
  | nil => rfl
  | cons move moves ih =>
    have hs : m'.stack = m.stack := congrArg (·.stack) h
    rw [calmed, panics, panic?_calm hs move, ih (step_hushed h)]
    rfl

/-- **One alert for each panic.** -/
theorem run_panics (m : Machine) (moves : List Move) :
    (run m moves).world.panics = ((panics m moves).map .alerted).reverse ++ m.world.panics := by
  induction moves generalizing m with
  | nil => rfl
  | cons move moves ih =>
    rw [panics, List.map_append, List.reverse_append, List.append_assoc]
    rw [show run m (move :: moves) = run (step m move) moves from rfl, ih, step_panics]
    cases move.panic? m <;> rfl

/-- What is told of a payload: its text, or that it is none. -/
theorem message_cases (payload : Payload) :
    payload = .text payload.message ∨ payload = .other ∧ payload.message = "non-string panic payload" := by
  cases payload with
  | text s => exact .inl rfl
  | other => exact .inr ⟨rfl, rfl⟩

/-- **Nobody but the log learns of a listener's panic.** From any state of the machine and for any moves
of the code that runs, take each panic of a hook away, such that it comes back instead, and each panic of
a listener at the offer, such that it declines. At every point of the run the machine is as it was with
the panics: the same operation has led to the same result, the same code runs, and the worlds differ at
most in their journals. The journals differ by the alerts of the panics only, one for each, in order: a
warning with the names of the listener and of the hook and the text of the payload, or, where this is none,
a text that says so. A panic of a listener leaves no operation: what leaves one then is a panic that was on
its way before the hook was called. -/
theorem panics_invisible (m : Machine) (moves : List Move) :
    (∀ n, ∃ journal,
      run m ((calmed m moves).take n) =
        { run m (moves.take n) with world := { (run m (moves.take n)).world with journal } } ∧
      journal.filter (!·.isPanic) = (run m (moves.take n)).world.journal.filter (!·.isPanic)) ∧
    (calmed m moves).length = moves.length ∧
    (run m (calmed m moves)).world.panics = m.world.panics ∧
    (run m moves).world.panics = ((panics m moves).map .alerted).reverse ++ m.world.panics ∧
    ∀ n move a, moves[n]? = some move → move.panic? (run m (moves.take n)) = some a →
      (∃ (l : Listener) (hook text : String) (payload : Payload),
        a.record = ⟨.warn, "Suspend listener panicked",
          [("listener", .text l.name), ("hook", .text hook), ("panic", .text text)]⟩ ∧
        (payload = .text text ∨ payload = .other ∧ text = "non-string panic payload") ∧
        ((∃ c h others after rest, (run m (moves.take n)).stack = .hook c h l others after :: rest ∧
            move = .panic payload ∧
            (h, hook) ∈ [(Hook.suspendStarted, "suspend_started"), (.suspendComplete, "suspend_complete"),
              (.resumed, "resumed")]) ∨
          ∃ c offer k, move = .call (.addListener c l offer) ∧
            (run m (moves.take n)).world.coordinators c = some k ∧ offer k.state = .panic payload ∧
            hook = "listener_added")) ∧
      ∀ payload, (run m (moves.take (n + 1))).signal = .raised payload →
        ∃ c h l others rest,
          (run m (moves.take n)).stack = .hook c h l others (.raise payload) :: rest := by
  refine ⟨fun n => ?_, length_calmed m moves, ?_, run_panics m moves, fun n move a hn ha => ⟨?_, ?_⟩⟩
  · have hrun : (run m ((calmed m moves).take n)).hushed = (run m (moves.take n)).hushed := by
      rw [← calmed_take]
      exact run_calmed rfl _
    exact ⟨_, eq_of_hushed hrun⟩
  · have hcalm := run_panics m (calmed m moves)
    rw [panics_calmed rfl] at hcalm
    exact hcalm
  · obtain ⟨-, ⟨c, h, l, others, after, rest, payload, hs, hmove, rfl⟩ |
      ⟨c, l, offer, k, payload, hmove, hk, ho, rfl⟩⟩ := panic?_eq_some ha
    · exact ⟨l, h.name, payload.message, payload, rfl, message_cases payload,
        .inl ⟨c, h, others, after, rest, hs, hmove, by cases h <;> decide⟩⟩
    · exact ⟨l, "listener_added", payload.message, payload, rfl, message_cases payload,
        .inr ⟨c, offer, k, hmove, hk, ho, rfl⟩⟩
  · intro payload hr
    refine raised_of_panic? ha ?_
    rw [List.take_add_one, hn, Option.toList_some, run_snoc] at hr
    exact hr

-- A hook resumes the coordinator and panics; the hooks that are queued are called all the same.
example :
    panics {} [.call (.newCoordinator ⟨0⟩), .call (.addListener ⟨0⟩ ⟨⟨0⟩, "metrics"⟩ fun _ => .accept),
      .call (.suspend ⟨0⟩), .call (.resume ⟨0⟩), .panic .other, .ret {}, .panic (.text "late")] =
      [.listenerPanicked "metrics" "suspend_started" .other,
        .listenerPanicked "metrics" "resumed" (.text "late")] := by
  decide

end Machine

end Sluice
