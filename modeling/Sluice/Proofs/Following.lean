import Sluice.Proofs.Delivery

/-!
# A listener can follow its coordinator

A listener is shown a state when it subscribes, and is told of transitions from then on. It may subscribe
in the middle of a delivery, with calls still queued: these are not for it.

* `Hook.follow`, `believe`: what a listener makes of what it is told, if that makes sense.
* `heard`, `Once`: what a listener has been told, and that it has subscribed once and stayed.
* `Greeted`: what subscribers were shown, and that nobody is told of what is not due. `run_greeted`: **every
  run keeps it**.
* `heard_prefix`: a subscriber is told of the transitions since, in order. `believe_transitions`: these
  make sense from the state that it was shown.
* `following_exact`: what a listener knows of its coordinator.
-/

namespace Sluice

open Computability

/-- What a listener believes after a hook, unless that does not go with what it believed. -/
def Hook.follow : SuspendState → Hook → Option SuspendState
  | .running, .suspendStarted => some .suspending
  | .suspending, .suspendComplete => some .suspended
  | .suspending, .resumed | .suspended, .resumed => some .running
  | _, _ => none

/-- What a listener believes after some hooks. -/
def believe (s : SuspendState) (hs : List Hook) : Option SuspendState := hs.foldlM Hook.follow s

/-- The calls to a listener among others. -/
def callsTo (l : ListenerId) (cs : List (Hook × Listener)) : List Hook :=
  (cs.filter fun x => x.2.id = l).map Prod.fst

/-- What a listener has been told, oldest first. -/
def heard (l : ListenerId) (h : List Occurrence) : List Hook := callsTo l (calls h)

/-- A listener is subscribed by this and nothing else, and has not been unsubscribed since. -/
structure Once (l : ListenerId) (new old : List Occurrence) : Prop where
  before : ∀ o ∈ old, o.subscribes? ≠ some l
  since : ∀ o ∈ new, o.subscribes? ≠ some l
  stays : ∀ o ∈ new, ∀ c, o ≠ .unsubscribed c l

/-- Whoever has subscribed was shown the state of the moment, and by then nobody had been told of anything
that was not due. -/
def Greeted (h : List Occurrence) : Prop :=
  ∀ new c l s old, h = new ++ .offered c l s true :: old →
    s = (transitions old).getLast?.getD .running ∧ calls old <+: due old

section Scans

variable {l : Listener} {i : ListenerId} {c : CoordinatorId} {s t : SuspendState} {h new old : List Occurrence}

/-! ## Beliefs -/

theorem believe_append (s : SuspendState) (hs hs' : List Hook) :
    believe s (hs ++ hs') = (believe s hs).bind fun t => believe t hs' := List.foldlM_append

/-- The hook of a state leads to that state. -/
theorem eq_of_follow {x : SuspendState} (h : Hook.follow s (.of t) = some x) : x = t := by
  cases s <;> cases t <;> cases h <;> rfl

/-- A belief is the state that one has heard of last. -/
theorem eq_of_believe {ts : List SuspendState} (h : believe .running (ts.map Hook.of) = some s) :
    s = ts.getLast?.getD .running := by
  induction ts using List.reverseRecOn with
  | nil =>
    cases h
    rfl
  | append_singleton ts t _ =>
    rw [List.map_append, believe_append] at h
    obtain ⟨u, -, hu⟩ := Option.bind_eq_some_iff.1 h
    have hf : Hook.follow u (.of t) = some s := by
      simpa [believe] using hu
    rw [eq_of_follow hf]
    simp

theorem believe_undone {ts : List SuspendState} (h : ts ∈ undone∗) :
    believe .running (ts.map Hook.of) = some .running := by
  obtain ⟨us, rfl, hus⟩ := Language.mem_kstar.1 h
  clear h
  -- each attempt leads back to where it began
  induction us with
  | nil => rfl
  | cons u us ih =>
    have hu : believe .running (u.map Hook.of) = some .running := by
      rcases hus u List.mem_cons_self with rfl | rfl <;> rfl
    have hrest := ih fun v hv => hus v (List.mem_cons_of_mem _ hv)
    rw [List.flatten_cons, List.map_append, believe_append, hu]
    exact hrest

/-- **The transitions of a coordinator make sense to who hears of all.** -/
theorem LeadTo.believe {ts : List SuspendState} (h : LeadTo s ts) :
    Sluice.believe .running (ts.map Hook.of) = some s := by
  cases s with
  | running => exact believe_undone h
  | suspending =>
    obtain ⟨u, hu, rfl⟩ := h
    rw [List.map_append, believe_append, believe_undone hu]
    rfl
  | suspended =>
    obtain ⟨u, hu, rfl⟩ := h
    rw [List.map_append, believe_append, believe_undone hu]
    rfl

/-- They make sense also from the state that some of them have led to. -/
theorem believe_transitions {us ts : List SuspendState} (h : LeadTo s (us ++ ts)) :
    believe (us.getLast?.getD .running) (ts.map Hook.of) = some s := by
  have hb := h.believe
  rw [List.map_append, believe_append] at hb
  obtain ⟨u, hu, ht⟩ := Option.bind_eq_some_iff.1 hb
  rwa [eq_of_believe hu] at ht

/-- What makes sense makes sense as far as it has come. -/
theorem exists_believe {hs hs' : List Hook} (hp : hs <+: hs') (hb : believe s hs' = some t) :
    ∃ u, believe s hs = some u := by
  obtain ⟨rest, rfl⟩ := hp
  rw [believe_append] at hb
  obtain ⟨u, hu, -⟩ := Option.bind_eq_some_iff.1 hb
  exact ⟨u, hu⟩

/-! ## What is due to a subscriber -/

theorem callsTo_append (i : ListenerId) (cs ds : List (Hook × Listener)) :
    callsTo i (cs ++ ds) = callsTo i cs ++ callsTo i ds := by
  unfold callsTo
  rw [List.filter_append, List.map_append]

theorem callsTo_prefix {cs ds : List (Hook × Listener)} (i : ListenerId) (h : cs <+: ds) :
    callsTo i cs <+: callsTo i ds := (h.filter _).map _

/-- A hook for some listeners is a call to one of them for each time that it is among them. -/
theorem callsTo_map (i : ListenerId) (x : Hook) (ls : List Listener) :
    callsTo i (ls.map fun l => (x, l)) = (ls.filter fun l => l.id = i).map fun _ => x := by
  unfold callsTo
  rw [List.filter_map, List.map_map]
  rfl

/-- Who has not subscribed is not subscribed. -/
theorem filter_subscribers_eq_nil (h : ∀ o ∈ old, o.subscribes? ≠ some i) :
    (subscribers old).filter (fun l => l.id = i) = [] := by
  induction old with
  | nil => rfl
  | cons o old ih =>
    have hi := ih fun q hq => h q (List.mem_cons_of_mem _ hq)
    have ho := h o List.mem_cons_self
    cases o with
    | offered c l s taken =>
      cases taken with
      | true =>
        have hl : l.id ≠ i := fun he => ho (by rw [← he]; rfl)
        simp [subscribers, hi, hl]
      | false => exact hi
    | unsubscribed c l =>
      simp only [subscribers]
      rw [List.filter_comm, hi]
      rfl
    | _ => exact hi

/-- Nothing is due to who has not subscribed. -/
theorem callsTo_due_eq_nil (h : ∀ o ∈ old, o.subscribes? ≠ some i) : callsTo i (due old) = [] := by
  induction old with
  | nil => rfl
  | cons o old ih =>
    have hold : ∀ q ∈ old, q.subscribes? ≠ some i := fun q hq => h q (List.mem_cons_of_mem _ hq)
    cases o with
    | entered c s audience =>
      simp only [due]
      rw [callsTo_append, ih hold, callsTo_map, filter_subscribers_eq_nil hold]
      rfl
    | _ => exact ih hold

/-- Who has subscribed once and stayed is subscribed once. -/
theorem filter_subscribers_eq_self (ho : Once l.id new old) :
    (subscribers (new ++ .offered c l s true :: old)).filter (fun x => x.id = l.id) = [l] := by
  induction new with
  | nil => simp [subscribers, filter_subscribers_eq_nil ho.before]
  | cons o new ih =>
    have hi := ih ⟨ho.before, fun q hq => ho.since q (List.mem_cons_of_mem _ hq),
      fun q hq => ho.stays q (List.mem_cons_of_mem _ hq)⟩
    have hsince := ho.since o List.mem_cons_self
    have hstays := ho.stays o List.mem_cons_self
    cases o with
    | offered d x t taken =>
      cases taken with
      | true =>
        have hx : x.id ≠ l.id := fun he => hsince (by rw [← he]; rfl)
        simp [subscribers, hi, hx]
      | false => exact hi
    | unsubscribed d x =>
      have hx : x ≠ l.id := fun he => hstays d (by rw [he])
      simp only [List.cons_append, subscribers]
      rw [List.filter_comm, hi]
      simp [Ne.symm hx]
    | _ => exact hi

/-- **What is due to a subscriber are the transitions since.** -/
theorem callsTo_due (ho : Once l.id new old) :
    callsTo l.id (due (new ++ .offered c l s true :: old)) = (transitions new).map Hook.of := by
  induction new with
  | nil =>
    have hdue : due ([] ++ .offered c l s true :: old) = due old := rfl
    rw [hdue, callsTo_due_eq_nil ho.before]
    rfl
  | cons o new ih =>
    have ho' : Once l.id new old := ⟨ho.before, fun q hq => ho.since q (List.mem_cons_of_mem _ hq),
      fun q hq => ho.stays q (List.mem_cons_of_mem _ hq)⟩
    cases o with
    | entered d t audience =>
      simp only [List.cons_append, due, transitions]
      rw [callsTo_append, ih ho', callsTo_map, filter_subscribers_eq_self ho', List.map_append]
      rfl
    | _ => exact ih ho'

/-- What a subscriber has been told since is all that it has ever been told. -/
theorem callsTo_calls (hg : calls old <+: due old) (ho : Once l.id new old) :
    callsTo l.id (calls (new ++ .offered c l s true :: old)) = heard l.id new := by
  have hnone : callsTo l.id (calls old) = [] := by
    have hp := callsTo_prefix l.id hg
    rw [callsTo_due_eq_nil ho.before] at hp
    exact List.prefix_nil.1 hp
  have hcalls : calls (.offered c l s true :: old) = calls old := rfl
  rw [calls_append, callsTo_append, hcalls, hnone]
  rfl

/-- **A subscriber is told of the transitions since**, in order, as far as it has been told. -/
theorem heard_prefix (hg : calls old <+: due old) (ho : Once l.id new old)
    (hd : calls (new ++ .offered c l s true :: old) <+: due (new ++ .offered c l s true :: old)) :
    heard l.id new <+: (transitions new).map Hook.of := by
  have hp := callsTo_prefix l.id hd
  rwa [callsTo_due ho, callsTo_calls hg ho] at hp

end Scans

/-- What a coordinator has published is its state. -/
theorem World.Sound.published {w : World} {c : CoordinatorId} (hw : w.Sound) :
    (w.coordinator c).published = (w.coordinator c).state := by
  cases hk : w.coordinators c with
  | none =>
    rw [World.coordinator_eq_new hk]
  | some k =>
    rw [World.coordinator_eq hk]
    exact (hw.coordinators c k hk).sound.published

namespace Machine

open World

variable {w₀ : World} {move : Move} {c : CoordinatorId}

/-! ## Who subscribes is shown the state -/

/-- A coordinator of which no hook runs has made every call. -/
theorem Told.calls_eq_due {a : Scene} (h : Told c a) (hs : hooks c a.2 = []) :
    calls (a.1.history c) = due (a.1.history c) := by
  have hd : (a.1.coordinator c).dispatching = false := by
    have hrun := h.running
    rw [hs] at hrun
    by_contra hd
    rw [if_pos (by simpa using hd)] at hrun
    cases hrun
  rw [h.ledger.due, owed, hs, h.idle hd]
  simp

theorem Told.calls_prefix {a : Scene} (h : Told c a) : calls (a.1.history c) <+: due (a.1.history c) := by
  rw [h.ledger.due]
  exact List.prefix_append _ _

/-- **Every change keeps what subscribers were shown**, and who subscribes is shown the state. -/
theorem Change.greeted {a b : Scene} (hab : Change w₀ move a b) (hw : a.1.Sound) (ht : Told c a)
    (h : Greeted (a.1.history c)) : Greeted (b.1.history c) := by
  intro new d l s old he
  rcases hab.adds c with ⟨more, hh, hn⟩ | ⟨k, x, hk, hh⟩
  · -- the subscription is an earlier one
    rw [hh] at he
    rcases List.append_eq_append_iff.1 he with ⟨mid, rfl, hmid⟩ | ⟨mid, rfl, hmid⟩
    · exact h mid d l s old hmid
    · cases mid with
      | nil => exact h [] d l s old hmid.symm
      | cons o mid =>
        cases hmid
        have hno := hn (.offered d l s true) (by simp)
        cases hno
  · rw [hh] at he
    rcases List.append_eq_cons_iff.1 he.symm with ⟨-, hfirst⟩ | ⟨new', -, hlater⟩
    · cases hfirst
      have hlast := ht.ledger.order.last
      rw [coordinator_eq hk, (hw.coordinators c k hk).sound.published] at hlast
      exact ⟨hlast.symm, ht.calls_prefix⟩
    · exact h new' d l s old hlater

theorem run_greeted (moves : List Move) (c : CoordinatorId) :
    Greeted ((run {} moves).world.history c) := by
  refine (run_keep (P := fun a => (a.1.Sound ∧ Told c a) ∧ Greeted (a.1.history c)) (m := {}) ?_
    ⟨⟨sound_new, told_new c⟩, ?_⟩ moves).2
  · intro w₀ move a b hab ⟨⟨hw, ht⟩, hg⟩
    exact ⟨⟨hab.sound hw, hab.told hw ht⟩, hab.greeted hw ht hg⟩
  · intro new d l s old he
    have hnil : ([] : List Occurrence) = new ++ .offered d l s true :: old := he
    simp at hnil

/-- **A listener can follow its coordinator.** In any run, a listener that has subscribed once and stayed
was shown the state of the moment, and whatever it has been told since makes sense from there. When no hook
of the coordinator runs it knows the state. -/
theorem following_exact (moves : List Move) (c : CoordinatorId) {new old : List Occurrence} {l : Listener}
    {s : SuspendState} (hh : (run {} moves).world.history c = new ++ .offered c l s true :: old)
    (ho : Once l.id new old) :
    let m := run {} moves
    s = (transitions old).getLast?.getD .running ∧
      heard l.id (m.world.history c) = heard l.id new ∧
      ∃ t, believe s (heard l.id new) = some t ∧
        (hooks c m.stack = [] → t = (m.world.coordinator c).state) := by
  intro m
  have ht : Told c m.scene := run_told moves c
  have hw : m.world.Sound := run_sound moves
  obtain ⟨hshown, hgreeted⟩ := run_greeted moves c new c l s old hh
  have hprefix : heard l.id new <+: (transitions new).map Hook.of := by
    refine heard_prefix (c := c) (s := s) hgreeted ho ?_
    rw [← hh]
    exact ht.calls_prefix
  have hall : heard l.id (m.world.history c) = heard l.id new := by
    unfold heard
    rw [hh]
    exact callsTo_calls hgreeted ho
  -- the transitions since lead from the state that was shown to that of now
  have hlead : LeadTo (m.world.coordinator c).published (transitions old ++ transitions new) := by
    have horder := ht.ledger.order
    simp only [scene] at horder
    rw [hh, transitions_append] at horder
    exact horder
  have hbelieve : believe s ((transitions new).map Hook.of) = some (m.world.coordinator c).published := by
    rw [hshown]
    exact believe_transitions hlead
  obtain ⟨t, htold⟩ := exists_believe hprefix hbelieve
  refine ⟨hshown, hall, t, htold, fun hquiet => ?_⟩
  -- every call has been made
  have hheard : heard l.id new = (transitions new).map Hook.of := by
    have hcalls : calls (m.world.history c) = due (m.world.history c) := ht.calls_eq_due hquiet
    rw [hh] at hcalls
    rw [← callsTo_calls hgreeted ho, hcalls, callsTo_due ho]
  rw [hheard, hbelieve] at htold
  cases htold
  exact hw.published

/-- A listener subscribes in a hook, while a call to another is queued and yet to panic. -/
theorem following_exact_late :
    let c : CoordinatorId := ⟨0⟩
    let a : Listener := ⟨⟨0⟩, "a"⟩
    let b : Listener := ⟨⟨1⟩, "b"⟩
    let moves : List Move := [.call (.newCoordinator c), .call (.addListener c a fun _ => .accept),
      .call (.suspend c), .call (.addListener c b fun _ => .accept), .call (.resume c), .ret {},
      .panic .other, .ret {}, .ret {}]
    let m := run {} moves
    hooks c m.stack = [] ∧ heard b.id (m.world.history c) = [.resumed] ∧
      ∃ t, believe .suspended [.resumed] = some t ∧ t = (m.world.coordinator c).state := by
  intro c a b moves m
  let new : List Occurrence := [.called c .resumed b, .called c .resumed a,
    .called c .suspendComplete a, .entered c .running [a, b]]
  let old : List Occurrence := [.called c .suspendStarted a, .entered c .suspended [a],
    .entered c .suspending [a], .offered c a .running true]
  have hh : (run {} moves).world.history c = new ++ .offered c b .suspended true :: old := by
    decide +kernel
  have ho : Once b.id new old := by
    refine ⟨?_, ?_, fun o ho d => ?_⟩
    · decide
    · decide
    · rintro rfl
      simp [new] at ho
  have hs : hooks c m.stack = [] := by decide +kernel
  obtain ⟨-, hheard, t, ht, hstate⟩ := following_exact moves c hh ho
  exact ⟨hs, hheard, t, ht, hstate hs⟩

end Machine

end Sluice
