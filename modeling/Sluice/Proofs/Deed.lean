import Sluice.Proofs.Sound

/-!
# What an orderly move does

* `World.Wanes`: no coordinator comes to be held that nobody held before.
* `fire_outcome`: what comes of the callback of a drained gate.
* `Deed`: what changes do to gates and coordinators, but for whom these tell and who holds them.
  `Change.deed`: **a change of an orderly move does one deed**, so that what deeds keep, such moves keep.
-/

namespace Sluice

namespace World

/-- Nobody holds a coordinator that nobody held before. -/
def Wanes (w w' : World) : Prop :=
  ∀ c k', w'.coordinators c = some k' → k'.isAlive = true →
    ∃ k, w.coordinators c = some k ∧ k.isAlive = true

variable {w w' w'' : World} {c : CoordinatorId} {k k' : Coordinator}

theorem Wanes.refl (w : World) : w.Wanes w := fun _ k hk hl => ⟨k, hk, hl⟩

theorem Wanes.trans (h : w.Wanes w') (h' : w'.Wanes w'') : w.Wanes w'' := fun c k hk hl => by
  obtain ⟨k', hk', hl'⟩ := h' c k hk hl
  exact h c k' hk' hl'

theorem Rests.wanes (h : w.Rests w') : w.Wanes w' := by
  intro c k' hk' hl
  rcases h.coordinators c with e | ⟨k, n, hk, hn, e⟩
  · exact ⟨k', e ▸ hk', hl⟩
  · cases e.symm.trans hk'
    refine ⟨k, hk, ?_⟩
    simp only [Coordinator.isAlive, Bool.or_eq_true, decide_eq_true_eq] at hl ⊢
    exact hl.imp_left fun h => Nat.lt_of_lt_of_le h hn

theorem wanes_setCoordinator (hk : w.coordinators c = some k)
    (hl : k'.isAlive = true → k.isAlive = true) : w.Wanes (w.setCoordinator c k') := by
  intro d l hd hll
  rcases Table.set_cases hd with ⟨rfl, rfl⟩ | ⟨-, hd⟩
  · exact ⟨k, hk, hl hll⟩
  · exact ⟨l, hd, hll⟩

theorem wanes_note (w : World) (o : Occurrence) : w.Wanes (w.note o) := fun _ k hk hl => ⟨k, hk, hl⟩

end World

namespace Machine

open World

variable {w : World} {s : List Activation} {c : CoordinatorId} {after : After}

theorem deliver_wanes : w.Wanes (deliver w s c after).world := by
  unfold deliver
  split
  · exact (finish_rests w s after).wanes
  · rename_i k hk
    split
    · -- the delivery no longer holds the coordinator, others may
      refine (wanes_setCoordinator hk fun hl => ?_).trans (finish_rests _ s after).wanes
      simp only [Coordinator.isAlive, Bool.or_false] at hl ⊢
      rw [hl, Bool.true_or]
    · rename_i rest _
      have h : w.Wanes (w.setCoordinator c { k with outbox := rest }) := wanes_setCoordinator hk id
      exact h.trans (wanes_note _ _)

/-- A delivery holds its coordinator, so somebody has to hold it when the delivery begins. -/
theorem dispatch_wanes (hl : ∀ k, w.coordinators c = some k → k.isAlive = true) :
    w.Wanes (dispatch w s c after).world := by
  unfold dispatch
  split
  · exact (finish_rests w s after).wanes
  · rename_i k hk
    split
    · exact (finish_rests w s after).wanes
    · exact (wanes_setCoordinator hk fun _ => hl k hk).trans deliver_wanes

theorem nextHook_wanes {h : Hook} {others : List Listener} :
    w.Wanes (nextHook w s c h others after).world := by
  unfold nextHook
  split
  · exact deliver_wanes
  · exact wanes_note _ _

/-- **A callback runs** and strikes the gate from the pending set that it was closed for, or nothing
comes of it. -/
theorem fire_outcome (w : World) (s : List Activation) (g : GateId) (callback : Option DrainCallback)
    (after : After) :
    (∃ c n k p, callback = some (.report c n) ∧ w.coordinators c = some k ∧ k.isAlive = true ∧
        k.pending = some p ∧ p.generation = n ∧
        ((w.note (.fired g (.report c n))).strike c k g).Alike (fire w s g callback after).world ∧
        ((w.note (.fired g (.report c n))).strike c k g).Wanes (fire w s g callback after).world) ∨
      (w.Alike (fire w s g callback after).world ∧ w.Wanes (fire w s g callback after).world ∧
        ∀ c k p, w.coordinators c = some k → k.isAlive = true → k.pending = some p →
          callback ≠ some (.report c p.generation)) := by
  rcases fire_cases w s g callback after with
    ⟨e, rfl⟩ | ⟨cb, rfl, ⟨code, rfl, e⟩ | ⟨c, n, k, rfl, hk, hl, e⟩ | ⟨c, n, rfl, hdead, e⟩⟩ <;>
    rw [e]
  · exact .inr ⟨(finish_rests _ _ _).alike, (finish_rests _ _ _).wanes, fun _ _ _ _ _ _ => nofun⟩
  · exact .inr ⟨alike_note _ _, wanes_note _ _, fun _ _ _ _ _ _ => nofun⟩
  · -- somebody holds the coordinator, which compares generations
    set v : World := w.note (.fired g (.report c n))
    have hv : v.coordinators c = some k := hk
    rcases drained_cases v c k n g with ⟨e, p, hp, hn⟩ | ⟨e, hstale⟩ <;> rw [e]
    · refine .inl ⟨c, n, k, p, rfl, hk, hl, hp, hn, dispatch_alike, dispatch_wanes fun l hcl => ?_⟩
      rw [strike_coordinators, Table.set_self] at hcl
      cases hcl
      simpa using hl
    · -- the report is of another attempt
      refine .inr ⟨(alike_note _ _).trans dispatch_alike,
        (wanes_note _ _).trans (dispatch_wanes fun l hcl => ?_), ?_⟩
      · cases hv.symm.trans hcl
        exact hl
      · intro d l p hd hdl hp he
        cases he
        cases hk.symm.trans hd
        exact hstale p hp rfl
  · refine .inr ⟨(alike_note _ _).trans (finish_rests _ _ _).alike,
      (wanes_note _ _).trans (finish_rests _ _ _).wanes, ?_⟩
    intro d l p hd hdl hp he
    cases he
    rw [hdead l hd] at hdl
    cases hdl

/-- What an orderly change does to gates and coordinators, but for whom these tell and who holds them.
It is a piece of a move that is made in the world `w₀`. -/
inductive Deed (w₀ : World) (move : Move) : World → World → Prop
  | nothing {w : World} : Deed w₀ move w w
  | gateMade {w : World} {g name} (hg : w.gates g = none) : Deed w₀ move w (w.setGate g { name })
  | letIn {w : World} {g x p} (hx : w.gates g = some x) (ho : x.isOpen = true) :
      Deed w₀ move w (w.letIn g x p)
  | returned {w : World} {g x p y callback} (hx : w.gates g = some x)
      (hr : x.release? p = some (y, callback))
      (hne : ∀ c k q, w.coordinators c = some k → k.isAlive = true → k.pending = some q →
        callback ≠ some (.report c q.generation)) :
      Deed w₀ move w (w.setGate g y)
  | reported {w v : World} {g x p y k q} {c : CoordinatorId} (hx : w.gates g = some x)
      (hr : x.release? p = some (y, some (.report c q.generation))) (hk : w.coordinators c = some k)
      (hl : k.isAlive = true) (hq : k.pending = some q) (hg : v.gates = w.gates.set g y)
      (hc : v.coordinators = w.coordinators) :
      Deed w₀ move w (v.strike c k g)
  | coordinatorMade {c : CoordinatorId} (hc : w₀.coordinators c = none) :
      Deed w₀ move w₀ (w₀.setCoordinator c {})
  | suspended {w : World} {c : CoordinatorId} {k} (hk : w.coordinators c = some k)
      (hl : k.isAlive = true) (hs : k.state = .running) : Deed w₀ move w (w.suspend c k)
  | resumed {w : World} {c : CoordinatorId} {k} (hm : move.Resumes w₀ c)
      (hk : w.coordinators c = some k) (hl : k.isAlive = true) : Deed w₀ move w (w.resume c k)
  | gateAdded {c : CoordinatorId} {k g x} (hm : move = .call (.addGate c g))
      (hk : w₀.coordinators c = some k) (hl : k.isAlive = true) (hx : w₀.gates g = some x)
      (ho : w₀.Sole c g) : Deed w₀ move w₀ (w₀.addGate c k g x)
  | gateRegistered {w : World} {c : CoordinatorId} {k g name} (hk : w.coordinators c = some k)
      (hl : k.isAlive = true) (hg : w.gates g = none) :
      Deed w₀ move w ((w.setGate g { name }).addGate c k g { name })
  | gateRemoved {w : World} {c : CoordinatorId} {k g} (hk : w.coordinators c = some k)
      (hl : k.isAlive = true) : Deed w₀ move w (w.removeGate c k g)

/-- **An orderly change does one deed.** -/
theorem Change.deed {w₀ : World} {move : Move} {a b : Scene} (ho : Orderly w₀ move)
    (hab : Change w₀ move a b) (h : a.1.Sound) :
    ∃ v, Deed w₀ move a.1 v ∧ v.Alike b.1 ∧ v.Wanes b.1 := by
  -- a delivery follows, by a coordinator that somebody holds
  have hdispatch {u : World} {s : List Activation} {c : CoordinatorId} {after : After}
      (k : Coordinator) (hc : u.coordinators c = some k) (hl : k.isAlive = true) :
      u.Alike (dispatch u s c after).world ∧ u.Wanes (dispatch u s c after).world := by
    refine ⟨dispatch_alike, dispatch_wanes fun l hcl => ?_⟩
    cases hc.symm.trans hcl
    exact hl
  cases hab with
  | gateMade _ hg => exact ⟨_, .gateMade hg, .refl _, .refl _⟩
  | letIn hx hop _ => exact ⟨_, .letIn hx hop, .refl _, .refl _⟩
  | @turnedAway w s g x after hx _ =>
    rw [turnAway_eq hx (h.gates g x hx)]
    exact ⟨w, .nothing, (finish_rests _ _ _).alike, (finish_rests _ _ _).wanes⟩
  | @returned w s g x p y callback after hx hr =>
    -- the permit is back before the callback runs
    set v : World := (w.setGate g y).note (.returned g p)
    rcases fire_outcome v s g callback after with
      ⟨c, n, k, q, rfl, hk, hl, hq, rfl, ha, hw⟩ | ⟨ha, hw, hne⟩
    · have hd : Deed w₀ move w ((v.note (.fired g (.report c q.generation))).strike c k g) :=
        .reported hx hr hk hl hq rfl rfl
      exact ⟨_, hd, ha, hw⟩
    · exact ⟨_, .returned hx hr hne, (alike_note _ _).trans ha, (wanes_note _ _).trans hw⟩
  | closed hm _ => exact absurd hm (ho.not_closing _ _)
  | reopened hm _ => exact absurd hm (ho.not_opening _)
  | coordinatorMade hc => exact ⟨_, .coordinatorMade hc, .refl _, .refl _⟩
  | @suspended w s c k after hk hl hs =>
    refine ⟨_, .suspended hk (hl ho) hs, hdispatch (k.suspendedWith (w.busy k.gates) w.date) ?_ ?_⟩
    · rw [suspend_coordinators, Table.set_self]
    · simpa using hl ho
  | @resumed w s c k after hm hk hl _ =>
    refine ⟨_, .resumed hm hk (hl ho), hdispatch k.reopening ?_ ?_⟩
    · rw [resume_coordinators, Table.set_self]
    · simpa using hl ho
  | gateAdded hm hk hx hl hsole => exact ⟨_, .gateAdded hm hk (hl ho) hx (hsole ho), .refl _, .refl _⟩
  | gateRegistered _ hk hg hl => exact ⟨_, .gateRegistered hk (hl ho) hg, .refl _, .refl _⟩
  | @gateRemoved w s c k g after _ hk hl =>
    set k₁ : Coordinator := { k with gates := k.gates.filter (· ≠ g) }
    refine ⟨_, .gateRemoved hk (hl ho), hdispatch (k₁.struck g w.date) ?_ ?_⟩
    · rw [World.removeGate, strike_coordinators, Table.set_self]
    · rw [Coordinator.isAlive_struck]
      exact hl ho
  | @subscribed w s c k l hk =>
    have hw : w.Wanes (w.setCoordinator c { k with listeners := k.listeners ++ [l] }) :=
      wanes_setCoordinator hk id
    exact ⟨w, .nothing, (alike_setCoordinator hk ⟨_, _, _, _, rfl⟩).trans (alike_note _ _),
      hw.trans (wanes_note _ _)⟩
  | declined => exact ⟨_, .nothing, alike_note _ _, wanes_note _ _⟩
  | @unsubscribed w s c k l hk =>
    have hw : w.Wanes
        (w.setCoordinator c { k with listeners := k.listeners.filter fun x => x.id ≠ l }) :=
      wanes_setCoordinator hk id
    exact ⟨w, .nothing, (alike_setCoordinator hk ⟨_, _, _, _, rfl⟩).trans (alike_note _ _),
      hw.trans (wanes_note _ _)⟩
  | shared hk hl =>
    exact ⟨_, .nothing, alike_setCoordinator hk ⟨_, _, _, _, rfl⟩,
      wanes_setCoordinator hk fun _ => hl ho⟩
  | dropped hk =>
    refine ⟨_, .nothing, alike_setCoordinator hk ⟨_, _, _, _, rfl⟩,
      wanes_setCoordinator hk fun hl => ?_⟩
    simp only [Coordinator.isAlive, Bool.or_eq_true, decide_eq_true_eq] at hl ⊢
    exact hl.imp_left fun h => by omega
  | hookLeft => exact ⟨_, .nothing, nextHook_alike, nextHook_wanes⟩
  | callbackLeft | handlerEntered | handlerLeft => exact ⟨_, .nothing, .refl _, .refl _⟩
  | finished => exact ⟨_, .nothing, (finish_rests _ _ _).alike, (finish_rests _ _ _).wanes⟩
  | alerted => exact ⟨_, .nothing, alike_note _ _, wanes_note _ _⟩
  | aside hg _ hc _ =>
    exact ⟨_, .nothing, ⟨hg, fun c k hk => ⟨k, hc ▸ hk, .refl k⟩⟩, fun c k hk hl => ⟨k, hc ▸ hk, hl⟩⟩

end Machine

end Sluice
