import Sluice.Proofs.Callbacks
import Sluice.Proofs.Delivery
import Sluice.Proofs.Performs

/-!
# The order in which permits come back

Permits come back to their gates, each in some way and all in some order. Gates hold no callbacks but those
of one coordinator, whose hooks call nothing. What comes of it depends on which permits these are, and not
on the order.

* `Op.Brings`: the operations that bring a permit back that is in flight.
* `Standing`: the gates, a coordinator and its history. `Standing.bring`: what one permit does to them.
* `Gate.release?_comm`, `Coordinator.hear_comm`: two permits at one gate, and two reports to a coordinator.
  `Standing.bring_comm`: **two permits that come back commute**. `Standing.foldl_bring_perm`: so do any.
* `Attentive.performs`: operations that bring permits back do to the standing what the permits do.
* `return_order`: the two orders.
-/

namespace Sluice

open World

/-- The operations that bring a permit back: its holder gives it back or lets go of it, its ticket is
given back, or it is given to some gate, which may be the wrong one. -/
inductive Op.Brings (w : World) (p : Permit) : Op → Prop
  | release : Brings w p (.release p)
  | drop : Brings w p (.drop p)
  | ticket {t : Ticket} (hg : t.gate = p.gate) (hp : t.permit = p.id) : Brings w p (.releaseTicket p.gate t)
  | via {g : GateId} (hg : (w.gates g).isSome) : Brings w p (.releaseVia g p)

/-! ## Two permits at one gate -/

/-- **Two permits come back to one gate** in either order: with the first nothing else happens, and the
second does the same. -/
theorem Gate.release?_comm {x : Gate} {p q : PermitId} (hx : x.Sound) (hp : p ∈ x.permits)
    (hq : q ∈ x.permits) (hne : p ≠ q) :
    ∃ y y', x.release? p = some (y, none) ∧ x.release? q = some (y', none) ∧ q ∈ y.permits ∧
      y.release? q = y'.release? p := by
  have hq' : q ∈ x.permits.erase p := (List.mem_erase_of_ne hne.symm).2 hq
  have hp' : p ∈ x.permits.erase q := (List.mem_erase_of_ne hne).2 hp
  -- so the first is not the last
  have hmany : x.outstanding - 1 ≠ 0 := by
    have hpos := List.length_pos_of_mem hq'
    rw [List.length_erase_of_mem hp] at hpos
    rw [hx.count]
    omega
  refine ⟨{ x with outstanding := x.outstanding - 1, permits := x.permits.erase p },
    { x with outstanding := x.outstanding - 1, permits := x.permits.erase q }, ?_, ?_, hq', ?_⟩
  · simp [release?, hp, hmany]
  · simp [release?, hq, hmany]
  · unfold release?
    rw [if_pos hq', if_pos hp', List.erase_comm]

/-! ## Two reports to a coordinator -/

theorem Pending.strike_comm (p : Pending) (f g : GateId) : (p.strike f).strike g = (p.strike g).strike f := by
  unfold Pending.strike
  simp only [List.filter_filter, Bool.and_comm]

namespace Coordinator

variable {k : Coordinator} {c : CoordinatorId} {date : String} {f g : GateId}
  {callback callback' : Option DrainCallback} {h : List Occurrence}

/-- What counts after a report would have counted before. -/
theorem awaits_of_hear
    (ha : (hear c date g callback (k, h)).1.Awaits f callback') : k.Awaits f callback' := by
  rcases hear_cases c date g callback k h with e | ⟨p, hp, e | e⟩ <;> rw [e] at ha
  · exact ha
  · obtain ⟨d, n, q, hcb, hq, halive, hn, hw⟩ := ha
    cases hq
    exact ⟨d, n, p, hcb, hp, halive, hn, (Pending.waitsFor_strike.1 hw).1⟩
  · obtain ⟨d, n, q, -, hq, -⟩ := ha
    have hnone : (k.completed date).pending = none := completed_pending k date
    cases hnone.symm.trans hq

/-- Two gates report that are both waited for. -/
theorem hear_hear {p : Pending} (hp : k.pending = some p) (hf : k.Awaits f callback)
    (hg : k.Awaits g callback') (hfg : f ≠ g) :
    hear c date g callback' (hear c date f callback (k, h)) =
      if ((p.strike f).strike g).gates = [] then
        ({ k.completed date with outbox := [], dispatching := false }, k.completion c ++ h)
      else ({ k with pending := some ((p.strike f).strike g) }, h) := by
  obtain ⟨d, n, q, hcb, hq, halive, hn, hw⟩ := hg
  cases hp.symm.trans hq
  -- the first is not the last, since the second is still waited for
  have hw' : (p.strike f).waitsFor g = true := Pending.waitsFor_strike.2 ⟨hw, hfg.symm⟩
  have hne : (p.strike f).gates ≠ [] := by
    intro hnil
    have hm := Pending.waitsFor_iff.1 hw'
    rw [hnil] at hm
    cases hm
  rw [hear_of_awaits hf hp, if_neg hne]
  exact hear_of_awaits (k := { k with pending := some (p.strike f) })
    ⟨d, n, p.strike f, hcb, rfl, halive, hn, hw'⟩ rfl

/-- **The reports of two gates** may come in either order. -/
theorem hear_comm (hfg : f ≠ g) :
    hear c date g callback' (hear c date f callback (k, h)) =
      hear c date f callback (hear c date g callback' (k, h)) := by
  by_cases hf : k.Awaits f callback
  · by_cases hg : k.Awaits g callback'
    · have ⟨_, _, p, _, hp, _⟩ := hf
      rw [hear_hear hp hf hg hfg, hear_hear hp hg hf hfg.symm, p.strike_comm]
    · -- only the first counts, and the second still does not
      rw [hear_eq_self hg]
      exact hear_eq_self fun ha => hg (awaits_of_hear ha)
  · rw [hear_eq_self hf]
    exact (hear_eq_self fun ha => hf (awaits_of_hear ha)).symm

end Coordinator

/-! ## Standings -/

/-- The gates, a coordinator and its history. -/
structure Standing where
  gates : Table GateId Gate
  coordinator : Coordinator
  history : List Occurrence

namespace Standing

/-- A gate's callback is run. -/
def hear (c : CoordinatorId) (date : String) (g : GateId) (callback : Option DrainCallback)
    (x : Standing) : Standing :=
  let y := Coordinator.hear c date g callback (x.coordinator, x.history)
  { x with coordinator := y.1, history := y.2 }

/-- A permit comes back to its gate. -/
def bring (c : CoordinatorId) (date : String) (x : Standing) (p : Permit) : Standing :=
  match x.gates p.gate with
  | none => x
  | some y =>
    match y.release? p.id with
    | none => x
    | some (z, callback) => hear c date p.gate callback { x with gates := x.gates.set p.gate z }

/-- Permits are in flight, and no two of them are the same. -/
structure Fit (x : Standing) (ps : List Permit) : Prop where
  sound : ∀ g y, x.gates g = some y → y.Sound
  live : ∀ p ∈ ps, ∃ y, x.gates p.gate = some y ∧ p.id ∈ y.permits
  distinct : (ps.map Permit.id).Nodup

variable {x : Standing} {c : CoordinatorId} {date : String} {g : GateId} {p q : Permit}
  {ps qs : List Permit} {y z : Gate} {callback : Option DrainCallback}

@[simp] theorem hear_gates : (hear c date g callback x).gates = x.gates := rfl

theorem hear_none : hear c date g none x = x := rfl

theorem bring_eq (hy : x.gates p.gate = some y) (hr : y.release? p.id = some (z, callback)) :
    x.bring c date p = hear c date p.gate callback { x with gates := x.gates.set p.gate z } := by
  unfold bring
  rw [hy]
  simp only [hr]

theorem isSome_bring (hg : (x.gates g).isSome = true) : ((x.bring c date p).gates g).isSome = true := by
  unfold bring
  split
  · exact hg
  · split
    · exact hg
    · simp only [hear_gates]
      unfold Table.set
      split
      · rfl
      · exact hg

theorem Fit.bring (h : x.Fit (p :: ps)) : (x.bring c date p).Fit ps := by
  obtain ⟨y, hy, hp⟩ := h.live p List.mem_cons_self
  obtain ⟨z, callback, hr⟩ := Gate.exists_release? hp
  have hys : y.Sound := h.sound _ y hy
  obtain ⟨hfresh, hdistinct⟩ := List.nodup_cons.1 h.distinct
  rw [bring_eq hy hr]
  refine ⟨fun g u hu => ?_, fun q hq => ?_, hdistinct⟩
  · rcases Table.set_cases hu with ⟨-, rfl⟩ | ⟨-, hu⟩
    · exact hys.release hr
    · exact h.sound g u hu
  · obtain ⟨u, hu, hqu⟩ := h.live q (List.mem_cons_of_mem p hq)
    by_cases hg : q.gate = p.gate
    · -- the other permit is still out
      rw [hg] at hu
      cases hy.symm.trans hu
      have hne : q.id ≠ p.id := fun he => hfresh (he ▸ List.mem_map_of_mem hq)
      obtain ⟨-, -, hperm, -⟩ := Gate.release?_cases hys hr
      refine ⟨z, by rw [hg]; exact Table.set_self _ _ _, ?_⟩
      rw [hperm]
      exact (List.mem_erase_of_ne hne).2 hqu
    · exact ⟨u, (Table.set_of_ne _ _ hg).trans hu, hqu⟩

/-- **Two permits that come back commute.** -/
theorem bring_comm (h : x.Fit (p :: q :: ps)) :
    (x.bring c date p).bring c date q = (x.bring c date q).bring c date p := by
  obtain ⟨y, hy, hp⟩ := h.live p List.mem_cons_self
  obtain ⟨y', hy', hq⟩ := h.live q (List.mem_cons_of_mem p List.mem_cons_self)
  have hne : p.id ≠ q.id := by
    have hd := (List.nodup_cons.1 h.distinct).1
    exact fun he => hd (he ▸ List.mem_cons_self)
  by_cases hg : p.gate = q.gate
  · -- at one gate only the second can be the last
    rw [hg] at hy
    cases hy.symm.trans hy'
    obtain ⟨u, u', hr, hr', hqu, hru⟩ := Gate.release?_comm (h.sound _ y hy) hp hq hne
    obtain ⟨z, callback, hz⟩ := Gate.exists_release? hqu
    have hset (v : Gate) : ({ x with gates := x.gates.set q.gate v } : Standing).gates q.gate = some v :=
      Table.set_self _ _ _
    rw [bring_eq (hg ▸ hy) hr, bring_eq hy hr', hear_none, hear_none, hg, bring_eq (hset u) hz,
      bring_eq (hg ▸ hset u') (hru ▸ hz), hg]
    simp only [Table.set_set]
  · obtain ⟨z, callback, hr⟩ := Gate.exists_release? hp
    obtain ⟨z', callback', hr'⟩ := Gate.exists_release? hq
    rw [bring_eq hy hr, bring_eq hy' hr',
      bring_eq ((Table.set_of_ne _ _ (Ne.symm hg)).trans hy') hr',
      bring_eq ((Table.set_of_ne _ _ hg).trans hy) hr]
    unfold hear
    simp only [Table.set_comm _ z z' hg, Coordinator.hear_comm (Ne.symm hg)]

theorem Fit.perm (h : x.Fit ps) (hperm : ps.Perm qs) : x.Fit qs :=
  ⟨h.sound, fun p hp => h.live p (hperm.mem_iff.2 hp), (hperm.map Permit.id).nodup_iff.1 h.distinct⟩

/-- **Permits may come back in any order.** -/
theorem foldl_bring_perm (hperm : ps.Perm qs) (h : x.Fit ps) :
    ps.foldl (bring c date) x = qs.foldl (bring c date) x := by
  induction hperm generalizing x with
  | nil => rfl
  | cons p _ ih => exact ih h.bring
  | swap p q ps =>
    rw [List.foldl_cons, List.foldl_cons, List.foldl_cons, List.foldl_cons, bring_comm h]
  | trans hperm _ ih ih' => exact (ih h).trans (ih' (h.perm hperm))

/-- What permits that come back can lead to: the coordinator waits for less, or its suspend has become
complete, and the listeners have been told. -/
def Leads (c : CoordinatorId) (date : String) (x y : Standing) : Prop :=
  (y.history = x.history ∧ ∃ pending, y.coordinator = { x.coordinator with pending } ∧
      (x.coordinator.pending = none → pending = none)) ∨
    (x.coordinator.pending ≠ none ∧ y.history = x.coordinator.completion c ++ x.history ∧
      y.coordinator = { x.coordinator.completed date with outbox := [], dispatching := false })

theorem Leads.refl (x : Standing) : x.Leads c date x := .inl ⟨rfl, _, rfl, id⟩

/-- A suspend becomes complete once. -/
theorem Leads.trans {x y z : Standing} (h : x.Leads c date y) (h' : y.Leads c date z) :
    x.Leads c date z := by
  rcases h with ⟨hh, o, hk, ho⟩ | ⟨hp, hh, hk⟩
  · have hpending : y.coordinator.pending = o := by rw [hk]
    rcases h' with ⟨hh', o', hk', ho'⟩ | ⟨hp', hh', hk'⟩
    · refine .inl ⟨hh'.trans hh, o', by rw [hk', hk], fun hn => ho' ?_⟩
      rw [hpending, ho hn]
    · refine .inr ⟨fun hn => hp' (hpending.trans (ho hn)), ?_, ?_⟩
      · rw [hh', hh, hk]
        rfl
      · rw [hk', hk]
        rfl
  · have hnone : y.coordinator.pending = none := by rw [hk]; exact Coordinator.completed_pending _ _
    rcases h' with ⟨hh', o', hk', ho'⟩ | ⟨hp', -⟩
    · refine .inr ⟨hp, hh'.trans hh, ?_⟩
      rw [hk', ho' hnone, ← hnone, hk]
    · exact absurd hnone hp'

theorem leads_hear : x.Leads c date (hear c date g callback x) := by
  unfold hear
  rcases Coordinator.hear_cases c date g callback x.coordinator x.history with e | ⟨p, hp, e | e⟩ <;>
    simp only [e]
  · exact .refl x
  · exact .inl ⟨rfl, _, rfl, fun hn => (nomatch hn.symm.trans hp)⟩
  · exact .inr ⟨fun hn => (nomatch hn.symm.trans hp), rfl, rfl⟩

theorem leads_bring (p : Permit) : x.Leads c date (x.bring c date p) := by
  unfold bring
  split
  · exact .refl x
  · split
    · exact .refl x
    · rename_i z callback _
      have hset : x.Leads c date { x with gates := x.gates.set p.gate z } := .inl ⟨rfl, _, rfl, id⟩
      exact hset.trans leads_hear

theorem leads_foldl_bring (ps : List Permit) (x : Standing) :
    x.Leads c date (ps.foldl (bring c date) x) := by
  induction ps generalizing x with
  | nil => exact .refl x
  | cons p ps ih => exact (leads_bring p).trans (ih _)

end Standing

/-- How a coordinator and the gates stand in a world. -/
def World.standing (c : CoordinatorId) (w : World) : Standing := ⟨w.gates, w.coordinator c, w.history c⟩

/-- Permits have come back, and nothing else has happened, but for what is in the journal. -/
structure World.Brought (c : CoordinatorId) (ps : List Permit) (w w' : World) : Prop where
  remainder : w'.remainder = w.remainder
  others : ∀ d, d ≠ c → w'.coordinators d = w.coordinators d
  standing : w'.standing c = ps.foldl (Standing.bring c w.date) (w.standing c)

namespace World

variable {w w' w'' : World} {c : CoordinatorId} {p q : Permit} {ps : List Permit} {op : Op}

theorem Brought.cons (h : w.Brought c [p] w') (h' : w'.Brought c ps w'') :
    w.Brought c (p :: ps) w'' := by
  have hdate : w'.date = w.date := congrArg (·.2.2.2.2.2) h.remainder
  refine ⟨h'.remainder.trans h.remainder, fun d hd => (h'.others d hd).trans (h.others d hd), ?_⟩
  rw [h'.standing, h.standing, hdate]
  rfl

theorem Brought.fit (h : w.Brought c [p] w') (hfit : (w.standing c).Fit (p :: ps)) :
    (w'.standing c).Fit ps := by
  rw [h.standing]
  exact hfit.bring

/-- What brings a permit back does so still when another permit has come back. -/
theorem Brought.brings (h : w.Brought c [p] w') (hop : Op.Brings w q op) : Op.Brings w' q op := by
  cases hop with
  | release => exact .release
  | drop => exact .drop
  | ticket hg hp => exact .ticket hg hp
  | via hg =>
    refine .via ?_
    have hgates : w'.gates = ((w.standing c).bring c w.date p).gates :=
      congrArg Standing.gates h.standing
    rw [hgates]
    exact Standing.isSome_bring hg

/-- Where the standing is the same, so is all but the journal. -/
theorem Brought.eq {w₁ w₂ : World} {ps₁ ps₂ : List Permit} {k₁ k₂ : Coordinator}
    (h₁ : w.Brought c ps₁ w₁) (h₂ : w.Brought c ps₂ w₂) (hk₁ : w₁.coordinators c = some k₁)
    (hk₂ : w₂.coordinators c = some k₂) (hs : w₁.standing c = w₂.standing c) :
    w₁ = { w₂ with journal := w₁.journal } := by
  have hgates : w₁.gates = w₂.gates := congrArg Standing.gates hs
  have hrem : w₁.remainder = w₂.remainder := h₁.remainder.trans h₂.remainder.symm
  have hcoord : w₁.coordinators = w₂.coordinators := by
    funext d
    by_cases hd : d = c
    · have hk := congrArg Standing.coordinator hs
      simp only [World.standing, coordinator_eq hk₁, coordinator_eq hk₂] at hk
      rw [hd, hk₁, hk₂, hk]
    · rw [h₁.others d hd, h₂.others d hd]
  -- field by field
  obtain ⟨_, _, _, _, _, _, _, _, _⟩ := w₁
  obtain ⟨_, _, _, _, _, _, _, _, _⟩ := w₂
  cases hgates
  cases hrem
  cases hcoord
  rfl

end World

namespace Machine

variable {w : World} {s : List Activation} {c : CoordinatorId} {k : Coordinator} {m n : Machine}
  {op : Op} {ops : List Op} {p : Permit} {ps : List Permit} {x y : Gate}
  {callback : Option DrainCallback} {rs : List Reply}

/-! ## Operations -/

/-- **An operation that brings a permit back** comes to the callback of its gate. -/
theorem perform_brings (hop : Op.Brings w p op) (hx : w.gates p.gate = some x)
    (hr : x.release? p.id = some (y, callback)) :
    ∃ v r, perform w s op = fire v s p.gate callback (.reply r) ∧ v.gates = w.gates.set p.gate y ∧
      v.remainder = w.remainder ∧ v.coordinators = w.coordinators ∧ ∀ c, v.history c = w.history c := by
  have hback : giveBack w s p.gate p.id =
      fire ((w.setGate p.gate y).note (.returned p.gate p.id)) s p.gate callback (.reply .done) := by
    simp only [giveBack, hx, World.release, hr]
  cases hop with
  | release => exact ⟨_, _, hback, rfl, rfl, rfl, fun _ => rfl⟩
  | drop =>
    refine ⟨(w.setGate p.gate y).note (.returned p.gate p.id), .done, ?_, rfl, rfl, rfl, fun _ => rfl⟩
    simp only [perform, letGo, hx, World.drop, World.release, hr]
  | @ticket t hg hp =>
    refine ⟨_, _, Eq.trans ?_ hback, rfl, rfl, rfl, fun _ => rfl⟩
    simp only [perform, releaseTicket, hx, hg, hp, if_true]
  | @via g hg =>
    obtain ⟨z, hz⟩ := Option.isSome_iff_exists.1 hg
    by_cases hpg : p.gate = g
    · refine ⟨_, _, Eq.trans ?_ hback, rfl, rfl, rfl, fun _ => rfl⟩
      subst hpg
      simp only [perform, releaseVia, hx, if_true]
    · -- the wrong gate lets go of it
      let v : World := w.alert (.wrongGate z.name x.name p.id)
      refine ⟨(v.setGate p.gate y).note (.returned p.gate p.id), .refused (.wrongGate z.name p.id), ?_,
        rfl, rfl, rfl, fun c => alert_history w (.wrongGate z.name x.name p.id) c⟩
      simp only [perform, releaseVia, hz, hx, hpg, if_false, letGo, alert_gates, World.drop,
        World.release, hr, v]

/-- No hook of a coordinator runs, and gates hold no callbacks but its own. -/
structure Attentive (c : CoordinatorId) (k : Coordinator) (m : Machine) : Prop where
  coordinator : m.world.coordinators c = some k
  outbox : k.outbox = []
  dispatching : k.dispatching = false
  reports : ∀ g x, m.world.gates g = some x → Reports c x.callback
  live : m.signal ≠ .aborted

/-- The operation comes to a callback, out of which it will answer. -/
theorem Attentive.step (h : Attentive c k m) (hop : Op.Brings m.world p op)
    (hx : m.world.gates p.gate = some x) (hxs : x.Sound) (hr : x.release? p.id = some (y, callback)) :
    Reports c callback ∧ Reports c y.callback ∧
      ∃ v r, step m (.call op) = fire v m.stack p.gate callback (.reply r) ∧
        v.gates = m.world.gates.set p.gate y ∧ v.remainder = m.world.remainder ∧
        v.coordinators = m.world.coordinators ∧ v.history c = m.world.history c := by
  have hrep : Reports c x.callback := h.reports _ x hx
  obtain ⟨v, r, hv, hg, hrem, hc, hh⟩ := perform_brings (s := m.stack) hop hx hr
  refine ⟨?_, ?_, v, r, ?_, hg, hrem, hc, hh c⟩
  · obtain ⟨-, -, -, -, -, ⟨-, -, -, -, rfl⟩ | ⟨-, -, -, rfl⟩⟩ := Gate.release?_cases hxs hr
    · exact hrep
    · exact nofun
  · obtain ⟨-, -, -, -, -, ⟨-, -, -, hy, -⟩ | ⟨-, -, hy, -⟩⟩ := Gate.release?_cases hxs hr <;> rw [hy]
    · exact nofun
    · exact hrep
  · unfold Machine.step
    rw [if_neg h.live]
    exact hv

/-- **Once the hooks are back** the permit is, and nothing else has happened. -/
theorem Attentive.comesBack (h : Attentive c k m) (hop : Op.Brings m.world p op)
    (hx : m.world.gates p.gate = some x) (hxs : x.Sound) (hp : p.id ∈ x.permits)
    (hm : ComesBack m.stack (Machine.step m (.call op)) n) :
    n.stack = m.stack ∧ (∃ r, n.signal = .replied r) ∧ m.world.Brought c [p] n.world ∧
      ∃ k', Attentive c k' n := by
  obtain ⟨y, callback, hr⟩ := Gate.exists_release? hp
  obtain ⟨hcb, hycb, v, r, hv, hg, hrem, hc, hh⟩ := h.step hop hx hxs hr
  have hk : v.coordinators c = some k := by rw [hc, h.coordinator]
  have hdate : v.date = m.world.date := congrArg (·.2.2.2.2.2) hrem
  rw [hv] at hm
  obtain ⟨hs, ha, hb, hhist⟩ := fire_hears hcb hk h.outbox h.dispatching hm
  rw [hdate, hh] at hb hhist
  set k' : Coordinator × List Occurrence :=
    Coordinator.hear c m.world.date p.gate callback (k, m.world.history c) with hk'
  have hkept : k'.1.outbox = [] ∧ k'.1.dispatching = false := by
    obtain ⟨_, _, _, _, _, e⟩ :=
      (Coordinator.heard_hear c m.world.date p.gate callback h.outbox h.dispatching
        (m.world.history c)).alike
    rw [hk', e]
    exact ⟨h.outbox, h.dispatching⟩
  refine ⟨hs, ⟨r, ha⟩, ⟨hb.remainder.trans hrem, fun d hd => ?_, ?_⟩, k'.1, hb.coordinator, hkept.1,
    hkept.2, fun g z hz => ?_, ?_⟩
  · rw [hb.coordinators, Table.set_of_ne _ _ hd, hc]
  · have hstand : m.world.standing c = ⟨m.world.gates, k, m.world.history c⟩ := by
      unfold World.standing
      rw [coordinator_eq h.coordinator]
    rw [List.foldl_cons, List.foldl_nil, hstand, Standing.bring_eq hx hr]
    unfold World.standing Standing.hear
    rw [hb.gates, hg, coordinator_eq hb.coordinator, hhist]
  · rw [hb.gates, hg] at hz
    rcases Table.set_cases hz with ⟨-, rfl⟩ | ⟨-, hz⟩
    · exact hycb
    · exact h.reports g z hz
  · rw [ha]
    nofun

/-- **Operations in turn** do to the standing what the permits do that they bring back. -/
theorem Attentive.performs (h : Attentive c k m) (hfit : (m.world.standing c).Fit ps)
    (hops : List.Forall₂ (Op.Brings m.world) ps ops) (hm : Performs m ops rs n) :
    n.stack = m.stack ∧ m.world.Brought c ps n.world ∧ ∃ k', n.world.coordinators c = some k' := by
  induction hm generalizing k ps with
  | nil =>
    cases hops
    exact ⟨rfl, ⟨rfl, fun _ _ => rfl, rfl⟩, k, h.coordinator⟩
  | @cons m l n op ops r rs hc _ _ ih =>
    cases hops with
    | @cons p _ ps _ hop hops =>
      obtain ⟨x, hx, hp⟩ := hfit.live p List.mem_cons_self
      obtain ⟨hs, -, hb, k', h'⟩ := h.comesBack hop hx (hfit.sound _ x hx) hp hc
      obtain ⟨hs', hb', hk⟩ := ih h' (hb.fit hfit) (hops.imp fun _ _ hop => hb.brings hop)
      exact ⟨hs'.trans hs, hb.cons hb', hk⟩

/-- Operations that bring permits back can be called in turn. -/
theorem Attentive.exists_performs (h : Attentive c k m) (hfit : (m.world.standing c).Fit ps)
    (hops : List.Forall₂ (Op.Brings m.world) ps ops) : ∃ rs n, Performs m ops rs n := by
  induction ops generalizing m k ps with
  | nil => exact ⟨[], m, .nil⟩
  | cons op ops ih =>
    cases hops with
    | @cons p _ ps _ hop hops =>
      obtain ⟨x, hx, hp⟩ := hfit.live p List.mem_cons_self
      have hxs : x.Sound := hfit.sound _ x hx
      obtain ⟨y, callback, hr⟩ := Gate.exists_release? hp
      obtain ⟨hcb, -, v, r, hv, -⟩ := h.step hop hx hxs hr
      obtain ⟨l, hc⟩ := exists_comesBack_fire hcb v m.stack p.gate (.reply r)
      rw [← hv] at hc
      obtain ⟨-, ⟨r', ha⟩, hb, k', h'⟩ := h.comesBack hop hx hxs hp hc
      obtain ⟨rs, n, hn⟩ := ih h' (hb.fit hfit) (hops.imp fun _ _ hop => hb.brings hop)
      exact ⟨r' :: rs, n, .cons hc ha hn⟩

/-- **The order in which permits come back does not matter.** In any reachable state let gates hold no
callbacks but those of one coordinator, whose hooks call nothing. Bring permits back that are in flight,
each in any way, in two orders. Both orders are possible, and they leave the same gates and the same
coordinators. In the history of the coordinator they leave the same transitions and hook calls: none, or
the end of the suspend that went on, of which each listener is told once. -/
theorem return_order (moves : List Move) {c : CoordinatorId} {k : Coordinator}
    (hk : (run {} moves).world.coordinators c = some k)
    (hr : ∀ g x cb, (run {} moves).world.gates g = some x → x.callback = some cb →
      ∃ n, cb = .report c n)
    (hh : hooks c (run {} moves).stack = []) (ha : (run {} moves).signal ≠ .aborted)
    {ps₁ ps₂ : List Permit} {ops₁ ops₂ : List Op}
    (hlive : ∀ p ∈ ps₁, ∃ x, (run {} moves).world.gates p.gate = some x ∧ p.id ∈ x.permits)
    (hdistinct : (ps₁.map Permit.id).Nodup) (hperm : ps₁.Perm ps₂)
    (hops₁ : List.Forall₂ (Op.Brings (run {} moves).world) ps₁ ops₁)
    (hops₂ : List.Forall₂ (Op.Brings (run {} moves).world) ps₂ ops₂) :
    let m := run {} moves
    (∃ rs n₁, Performs m ops₁ rs n₁) ∧ (∃ rs n₂, Performs m ops₂ rs n₂) ∧
    ∀ rs₁ rs₂ n₁ n₂, Performs m ops₁ rs₁ n₁ → Performs m ops₂ rs₂ n₂ →
      n₁.stack = m.stack ∧ n₂.stack = m.stack ∧
        n₁.world = { n₂.world with journal := n₁.world.journal } ∧
        n₁.world.history c = n₂.world.history c ∧
        (n₁.world.history c = m.world.history c ∨
          k.state = .suspending ∧ (n₁.world.coordinator c).state = .suspended ∧
            n₁.world.history c = k.completion c ++ m.world.history c) := by
  intro m
  have hw : m.world.Sound := run_sound moves
  have hks : k.Sound := (hw.coordinators c k hk).sound
  have hrest : k.outbox = [] ∧ k.dispatching = false := (run_told moves c).resting hk hh
  have hm : Attentive c k m := ⟨hk, hrest.1, hrest.2, fun g x hx cb hcb => hr g x cb hx hcb, ha⟩
  have hfit₁ : (m.world.standing c).Fit ps₁ := ⟨hw.gates, hlive, hdistinct⟩
  have hfit₂ : (m.world.standing c).Fit ps₂ := hfit₁.perm hperm
  refine ⟨hm.exists_performs hfit₁ hops₁, hm.exists_performs hfit₂ hops₂, ?_⟩
  intro rs₁ rs₂ n₁ n₂ hn₁ hn₂
  obtain ⟨hs₁, hb₁, k₁, hk₁⟩ := hm.performs hfit₁ hops₁ hn₁
  obtain ⟨hs₂, hb₂, k₂, hk₂⟩ := hm.performs hfit₂ hops₂ hn₂
  have hsame : n₁.world.standing c = n₂.world.standing c := by
    rw [hb₁.standing, hb₂.standing, Standing.foldl_bring_perm hperm hfit₁]
  refine ⟨hs₁, hs₂, hb₁.eq hb₂ hk₁ hk₂ hsame, congrArg Standing.history hsame, ?_⟩
  have hleads : (m.world.standing c).Leads c m.world.date (n₁.world.standing c) := by
    rw [hb₁.standing]
    exact Standing.leads_foldl_bring ps₁ _
  have hc : (m.world.standing c).coordinator = k := coordinator_eq hk
  rcases hleads with ⟨hhist, -⟩ | ⟨hpending, hhist, hcoord⟩
  · exact .inl hhist
  · rw [hc] at hpending hhist hcoord
    obtain ⟨q, hq⟩ := Option.ne_none_iff_exists'.1 hpending
    exact .inr ⟨hks.state_of_pending hq, congrArg Coordinator.state hcoord, hhist⟩

/-- A suspend waits for two gates. The permit of the second comes back first, through the gate of the
other, and then that of the first: it ends as if they had come back the other way round. -/
theorem return_order_two :
    let c : CoordinatorId := ⟨0⟩
    let l : Listener := ⟨⟨0⟩, "l"⟩
    let p : Permit := ⟨⟨⟨1, by decide⟩⟩, ⟨⟨0, by decide⟩⟩⟩
    let q : Permit := ⟨⟨⟨3, by decide⟩⟩, ⟨⟨2, by decide⟩⟩⟩
    let moves : List Move := [.call (.newCoordinator c), .call (.registerGate c p.gate "a"),
      .call (.registerGate c q.gate "b"), .call (.addListener c l fun _ => .accept),
      .call (.acquire p.gate p.id), .call (.acquire q.gate q.id), .call (.suspend c), .ret {}]
    ∃ rs n, Performs (run {} moves) [.releaseVia p.gate q, .release p] rs n ∧
      (n.world.coordinator c).state = .suspended ∧
      calls (n.world.history c) = [(.suspendStarted, l), (.suspendComplete, l)] := by
  intro c l p q moves
  have hk : (run {} moves).world.coordinators c =
      some { state := .suspending, generation := 1, gates := [p.gate, q.gate], listeners := [l],
             pending := some ⟨1, [(p.gate, "a"), (q.gate, "b")]⟩, published := .suspending,
             version := 1 } := by decide +kernel
  have hp : (run {} moves).world.gates p.gate =
      some { name := "a", state := .draining, outstanding := 1, permits := [p.id],
             callback := some (.report c 1) } := by decide +kernel
  have hq : (run {} moves).world.gates q.gate =
      some { name := "b", state := .draining, outstanding := 1, permits := [q.id],
             callback := some (.report c 1) } := by decide +kernel
  have hj : (run {} moves).world.journal =
      [.called c .suspendStarted l, .closed q.gate (.report c 1) false, .closed p.gate (.report c 1) false,
        .entered c .suspending [l], .issued q.gate q.id, .issued p.gate p.id,
        .offered c l .running true] := by decide +kernel
  have hr (g : GateId) (x : Gate) (cb : DrainCallback)
      (hx : (run {} moves).world.gates g = some x) (hcb : x.callback = some cb) :
      ∃ n, cb = .report c n := by
    have hm := closed_of_callback moves hx hcb
    rw [hj] at hm
    simp only [List.mem_cons, reduceCtorEq, Occurrence.closed.injEq, List.not_mem_nil, or_false,
      false_or, and_true] at hm
    rcases hm with ⟨-, rfl⟩ | ⟨-, rfl⟩ <;> exact ⟨1, rfl⟩
  have hlive : ∀ r ∈ [p, q], ∃ x, (run {} moves).world.gates r.gate = some x ∧ r.id ∈ x.permits := by
    intro r hr
    rcases List.mem_pair.1 hr with rfl | rfl
    · exact ⟨_, hp, List.mem_cons_self⟩
    · exact ⟨_, hq, List.mem_cons_self⟩
  have hops₁ : List.Forall₂ (Op.Brings (run {} moves).world) [p, q]
      [.drop p, .releaseTicket q.gate q.ticket] := .cons .drop (.cons (.ticket rfl rfl) .nil)
  have hops₂ : List.Forall₂ (Op.Brings (run {} moves).world) [q, p]
      [.releaseVia p.gate q, .release p] :=
    .cons (.via (Option.isSome_iff_exists.2 ⟨_, hp⟩)) (.cons .release .nil)
  obtain ⟨-, ⟨rs, n, hn⟩, hsame⟩ := return_order moves hk hr (by decide +kernel) (by decide +kernel)
    hlive (by decide) (.swap q p []) hops₁ hops₂
  -- the last permit enters the hook, which comes back
  obtain ⟨n₁, hn₁, hstate, hcalls⟩ : ∃ n₁,
      Performs (run {} moves) [.drop p, .releaseTicket q.gate q.ticket] [.done, .done] n₁ ∧
        (n₁.world.coordinator c).state = .suspended ∧
        calls (n₁.world.history c) = [(.suspendStarted, l), (.suspendComplete, l)] := by
    have hfirst : ComesBack (run {} moves).stack (step (run {} moves) (.call (.drop p)))
        (step (run {} moves) (.call (.drop p))) := .back (by decide +kernel)
    have hhook : (step (step (run {} moves) (.call (.drop p)))
          (.call (.releaseTicket q.gate q.ticket))).stack =
        .hook c .suspendComplete l [] (.reply .done) ::
          (step (run {} moves) (.call (.drop p))).stack := by decide +kernel
    exact ⟨_, .cons hfirst (by decide +kernel)
      (.cons (.hookReturns {} hhook (.back (by decide +kernel))) (by decide +kernel) .nil),
      by decide +kernel, by decide +kernel⟩
  obtain ⟨-, -, hworld, hhist, -⟩ := hsame [.done, .done] rs n₁ n hn₁ hn
  have hcoord : n.world.coordinator c = n₁.world.coordinator c := by
    rw [hworld]
    rfl
  exact ⟨rs, n, hn, hcoord ▸ hstate, hhist ▸ hcalls⟩

end Machine

end Sluice
