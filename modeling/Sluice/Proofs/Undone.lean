import Sluice.Proofs.Delivery
import Sluice.Proofs.Performs

/-!
# A suspend that is resumed leaves no trace on work

Two runs of the same code stand side by side: in one a coordinator has been suspended, in the other it
has been running all along. Its hooks call nothing, and the callbacks that gates hold are its own.

* `Gate.closedIn`: a gate as the suspend has left it. `closedIn_release?`: permits come back to it as they
  do to the open one.
* `Alongside`, `Matched`: the gates of the first run are closed and otherwise as in the second, and so is
  all else but the coordinator's attempt. `Matched.step`, `Matched.performs`: **to give back permits keeps
  the runs so, and it answers the same**. Once no gate is closed, so does any permit operation.
* `Undisturbed.suspend`, `Undisturbed.resume`: how the runs come to be matched, and the gates open again.
* `suspend_undone`: **to suspend, give back permits and resume does what to give back the permits does**.
-/

namespace Sluice

open World

/-- Whether an operation gives back a permit or lets go of it. -/
def Op.isReturn : Op → Bool
  | .release _ | .releaseVia _ _ | .drop _ | .releaseTicket _ _ => true
  | _ => false

/-- Whether an operation asks for a permit, gives one back or lets go of it. -/
def Op.isPermit : Op → Bool
  | .acquire _ _ => true
  | op => op.isReturn

/-- Nothing is waited for, queued or being delivered. -/
structure Coordinator.Quiet (k : Coordinator) : Prop where
  pending : k.pending = none
  outbox : k.outbox = []
  dispatching : k.dispatching = false

/-- The coordinators differ only in how their attempts stand. -/
def Coordinator.Astray (k k' : Coordinator) : Prop :=
  ∃ state generation pending suspendedAt published version,
    k' = { k with state, generation, pending, suspendedAt, published, version }

namespace Coordinator

variable {k k₁ k₂ : Coordinator}

theorem Astray.heard (h : k.Astray k₁) (h' : k₁.Heard k₂) : k.Astray k₂ := by
  obtain ⟨_, _, _, _, _, _, rfl⟩ := h
  obtain ⟨_, _, _, _, _, rfl⟩ := h'.alike
  exact ⟨_, _, _, _, _, _, rfl⟩

/-- A coordinator that has suspended and delivered its hooks. -/
theorem astray_suspendedWith (hk : k.Quiet) (busy : List (GateId × String)) (date : String) :
    k.Astray { k.suspendedWith busy date with outbox := [], dispatching := false } := by
  have ho : k.outbox = [] := hk.outbox
  have hd : k.dispatching = false := hk.dispatching
  set k' : Coordinator := k.suspendedWith busy date with hk'
  have hkept : k'.gates = k.gates ∧ k'.listeners = k.listeners ∧ k'.handles = k.handles := by
    rw [hk']
    unfold suspendedWith completed closing
    split <;> simp [setState]
  refine ⟨k'.state, k'.generation, k'.pending, k'.suspendedAt, k'.published, k'.version, ?_⟩
  simp only [hkept, ho, hd]

/-- **A coordinator that resumes and delivers its hooks** is the one that never suspended, but for the
generation and the number of its transitions. -/
theorem reopening_eq (hk : k.Quiet) (hks : k.Sound) (hs : k.state = .running) (ha : k.Astray k₁) :
    { k₁.reopening with outbox := [], dispatching := false } =
      { k with generation := k₁.generation + 1, version := k₁.version + 1 } := by
  have hdate : k.suspendedAt = none := by
    by_contra hd
    cases hs.symm.trans (hks.date_iff.1 hd)
  have hpub : k.published = .running := hks.published.trans hs
  obtain ⟨_, _, _, _, _, _, rfl⟩ := ha
  unfold reopening
  rw [notify_eq]
  simp only [setState, hs, hdate, hpub, hk.pending, hk.outbox, hk.dispatching]

end Coordinator

/-! ## Gates -/

namespace Gate

/-- The gate, closed if it is one of these. -/
def closedIn (gs : List GateId) (callback : DrainCallback) (g : GateId) (x : Gate) : Gate :=
  if g ∈ gs then x.beginDrain callback else x

variable {gs : List GateId} {cb : DrainCallback} {g : GateId} {x y : Gate} {p : PermitId}
  {callback : Option DrainCallback}

@[simp] theorem closedIn_name : (x.closedIn gs cb g).name = x.name := by
  unfold closedIn; split <;> simp

@[simp] theorem closedIn_permits : (x.closedIn gs cb g).permits = x.permits := by
  unfold closedIn; split <;> simp

@[simp] theorem closedIn_nil : x.closedIn [] cb g = x := if_neg List.not_mem_nil

/-- **A permit comes back to an open gate and to the same gate closed**: the one stays open, and the
other closed. -/
theorem beginDrain_release? (hx : x.Sound) (hs : x.state = .running)
    (hr : x.release? p = some (y, callback)) (cb : DrainCallback) :
    y.state = .running ∧ callback = none ∧ ∃ callback',
      (x.beginDrain cb).release? p = some (y.beginDrain cb, callback') ∧
        ∀ cb', callback' = some cb' → cb' = cb := by
  obtain ⟨hpos, hout, hperm, hname, hp, hcase⟩ := release?_cases hx hr
  -- an open gate hands out no callback
  obtain ⟨hys, hycb, hnone⟩ : y.state = x.state ∧ y.callback = x.callback ∧ callback = none := by
    rcases hcase with ⟨-, hdrain, -⟩ | ⟨-, h⟩
    · cases hs.symm.trans hdrain
    · exact h
  refine ⟨hys.trans hs, hnone, ?_⟩
  have hclosed : x.beginDrain cb = { x with state := .draining, callback := some cb } := by
    unfold beginDrain
    rw [if_neg (by omega)]
  rw [hclosed]
  unfold release?
  simp only [hp, if_true]
  by_cases hlast : x.outstanding - 1 = 0
  · -- it was the last
    refine ⟨some cb, ?_, fun cb' h => (Option.some.inj h).symm⟩
    have hy : y.beginDrain cb = { y with state := .drained, callback := none } := by
      unfold beginDrain
      rw [if_pos (by omega)]
    rw [hy]
    simp [completeDrain, hlast, hout, hperm, hname]
  · refine ⟨none, ?_, by simp⟩
    have hy : y.beginDrain cb = { y with state := .draining, callback := some cb } := by
      unfold beginDrain
      rw [if_neg (by omega)]
    rw [hy]
    simp [hlast, hout, hperm, hname]

theorem closedIn_release?_eq_none (hr : x.release? p = none) :
    (x.closedIn gs cb g).release? p = none := by
  have hp : p ∉ x.permits := by
    intro hp
    obtain ⟨y, callback, h⟩ := exists_release? hp
    cases hr.symm.trans h
  exact release?_eq_none (by rwa [closedIn_permits])

theorem closedIn_release? (hx : x.Sound) (hs : g ∈ gs → x.state = .running)
    (hr : x.release? p = some (y, callback)) (cb : DrainCallback) :
    (g ∈ gs → y.state = .running) ∧ ∃ callback',
      (x.closedIn gs cb g).release? p = some (y.closedIn gs cb g, callback') ∧
        ∀ cb', callback' = some cb' → callback = some cb' ∨ cb' = cb := by
  unfold closedIn
  by_cases hg : g ∈ gs
  · obtain ⟨hys, -, callback', hr', hcb⟩ := beginDrain_release? hx (hs hg) hr cb
    rw [if_pos hg, if_pos hg]
    exact ⟨fun _ => hys, callback', hr', fun cb' h => .inr (hcb cb' h)⟩
  · rw [if_neg hg, if_neg hg]
    exact ⟨fun h => absurd h hg, callback, hr, fun cb' h => .inl h⟩

/-- To open a gate that was open before it was closed undoes that. -/
theorem reopen_beginDrain (hx : x.Sound) (hs : x.state = .running) (cb : DrainCallback) :
    (x.beginDrain cb).reopen = x := by
  have hcb : x.callback = none := hx.running hs
  unfold reopen beginDrain
  split <;> simp [← hs, ← hcb]

end Gate

namespace Machine

/-- Beside a world in which a coordinator `k` runs, one in which it has turned into `k₁` and has closed
these gates. -/
structure Alongside (c : CoordinatorId) (k : Coordinator) (gs : List GateId) (n : Nat)
    (k₁ : Coordinator) (w₁ w₂ : World) : Prop where
  remainder : w₁.remainder = w₂.remainder
  gates : ∀ g, w₁.gates g = (w₂.gates g).map (Gate.closedIn gs (.report c n) g)
  coordinators : w₁.coordinators = w₂.coordinators.set c k₁
  coordinator : w₂.coordinators c = some k
  sound : ∀ g x, w₂.gates g = some x → x.Sound
  opened : ∀ g ∈ gs, ∀ x, w₂.gates g = some x → x.state = .running
  reports : ∀ g x, w₂.gates g = some x → Reports c x.callback

variable {w₁ w₂ v₁ v₂ : World} {c : CoordinatorId} {k k₁ k₁' : Coordinator} {gs : List GateId} {n : Nat}
  {g : GateId} {x y : Gate} {p : PermitId} {callback : Option DrainCallback}

theorem Alongside.becomes (h : Alongside c k gs n k₁ w₁ w₂) (h₁ : w₁.Becomes c k₁' v₁)
    (h₂ : w₂.Becomes c k v₂) : Alongside c k gs n k₁' v₁ v₂ := by
  refine ⟨?_, fun g => ?_, ?_, h₂.coordinator, ?_, ?_, ?_⟩
  · rw [h₁.remainder, h₂.remainder, h.remainder]
  · rw [h₁.gates, h₂.gates, h.gates]
  · rw [h₁.coordinators, h₂.coordinators, h.coordinators, Table.set_set, Table.set_set]
  · rw [h₂.gates]
    exact h.sound
  · rw [h₂.gates]
    exact h.opened
  · rw [h₂.gates]
    exact h.reports

theorem Alongside.note (h : Alongside c k gs n k₁ w₁ w₂) (o o' : Occurrence) :
    Alongside c k gs n k₁ (w₁.note o) (w₂.note o') :=
  ⟨h.remainder, h.gates, h.coordinators, h.coordinator, h.sound, h.opened, h.reports⟩

theorem Alongside.turned (h : Alongside c k gs n k₁ w₁ w₂) : w₁.coordinators c = some k₁ := by
  rw [h.coordinators, Table.set_self]

/-- One gate has changed, and is closed in the first world as it would be. -/
theorem Alongside.setGate (h : Alongside c k gs n k₁ w₁ w₂) (hy : y.Sound)
    (hs : g ∈ gs → y.state = .running) (hr : Reports c y.callback) :
    Alongside c k gs n k₁ (w₁.setGate g (y.closedIn gs (.report c n) g)) (w₂.setGate g y) := by
  have hcases {f : GateId} {z : Gate} (hz : (w₂.setGate g y).gates f = some z) :
      (f = g ∧ z = y) ∨ (f ≠ g ∧ w₂.gates f = some z) := Table.set_cases hz
  refine ⟨h.remainder, fun f => ?_, h.coordinators, h.coordinator, fun f z hz => ?_,
    fun f hf z hz => ?_, fun f z hz => ?_⟩
  · rw [setGate_gates, setGate_gates]
    by_cases hfg : f = g
    · subst hfg
      rw [Table.set_self, Table.set_self]
      rfl
    · rw [Table.set_of_ne _ _ hfg, Table.set_of_ne _ _ hfg]
      exact h.gates f
  · rcases hcases hz with ⟨-, rfl⟩ | ⟨-, hz⟩
    · exact hy
    · exact h.sound f z hz
  · rcases hcases hz with ⟨rfl, rfl⟩ | ⟨-, hz⟩
    · exact hs hf
    · exact h.opened f hf z hz
  · rcases hcases hz with ⟨-, rfl⟩ | ⟨-, hz⟩
    · exact hr
    · exact h.reports f z hz

/-- **A permit comes back in both worlds**, or in neither. -/
theorem Alongside.release (h : Alongside c k gs n k₁ w₁ w₂) (hx : w₂.gates g = some x)
    (hr : x.release? p = some (y, callback)) :
    Reports c callback ∧ ∃ callback', Reports c callback' ∧
      (x.closedIn gs (.report c n) g).release? p = some (y.closedIn gs (.report c n) g, callback') ∧
      Alongside c k gs n k₁ ((w₁.setGate g (y.closedIn gs (.report c n) g)).note (.returned g p))
        ((w₂.setGate g y).note (.returned g p)) := by
  have hxs : x.Sound := h.sound g x hx
  have hopened (hg : g ∈ gs) : x.state = .running := h.opened g hg x hx
  obtain ⟨hys, callback', hr', hcb⟩ := Gate.closedIn_release? hxs hopened hr (.report c n)
  -- what a gate hands out or keeps is what it held
  have hheld : Reports c callback ∧ Reports c y.callback := by
    have hrep : Reports c x.callback := h.reports g x hx
    obtain ⟨-, -, -, -, -, hcase⟩ := Gate.release?_cases hxs hr
    rcases hcase with ⟨-, -, -, hy, rfl⟩ | ⟨-, -, hy, rfl⟩
    · rw [hy]
      exact ⟨hrep, nofun⟩
    · rw [hy]
      exact ⟨nofun, hrep⟩
  refine ⟨hheld.1, callback', fun cb' hcb' => ?_, hr', (h.setGate (hxs.release hr) hys hheld.2).note _ _⟩
  rcases hcb cb' hcb' with hcb' | rfl
  · exact hheld.1 cb' hcb'
  · exact ⟨n, rfl⟩

theorem map_closedIn_nil (cb : DrainCallback) (o : Option Gate) : o.map (Gate.closedIn [] cb g) = o := by
  cases o with
  | none => rfl
  | some x => exact congrArg some Gate.closedIn_nil

/-- With no gate closed the gates of both worlds are the same. -/
theorem Alongside.gates_eq (h : Alongside c k [] n k₁ w₁ w₂) : w₁.gates = w₂.gates := by
  funext g
  rw [h.gates g, map_closedIn_nil]

theorem Alongside.issuer_eq (h : Alongside c k gs n k₁ w₁ w₂) : w₁.issuer = w₂.issuer :=
  congrArg Prod.fst h.remainder

theorem Alongside.letIn (h : Alongside c k [] n k₁ w₁ w₂) (hx : w₂.gates g = some x)
    (ho : x.isOpen = true) : Alongside c k [] n k₁ (w₁.letIn g x p) (w₂.letIn g x p) := by
  have hset := h.setGate (g := g) ((h.sound g x hx).letIn (p := p) ho) nofun (h.reports g x hx)
  rw [Gate.closedIn_nil] at hset
  have hrem : (w₁.letIn g x p).remainder = (w₂.letIn g x p).remainder := by
    have hi : w₁.issuer = w₂.issuer := h.issuer_eq
    have hr := congrArg Prod.snd h.remainder
    exact congrArg₂ Prod.mk (congrArg (Table.set · p g) hi) hr
  exact ⟨hrem, hset.gates, hset.coordinators, hset.coordinator, hset.sound, hset.opened, hset.reports⟩

variable {s : List Activation} {m₁ m₂ n₁ n₂ : Machine} {op : Op} {ops : List Op}

/-- Two machines are at the callback of one gate, in worlds alongside, and will answer the same. -/
def Abreast (c : CoordinatorId) (k : Coordinator) (gs : List GateId) (n : Nat) (k₁ : Coordinator)
    (s : List Activation) (m₁ m₂ : Machine) : Prop :=
  ∃ v₁ v₂ g callback₁ callback₂ r, m₁ = fire v₁ s g callback₁ (.reply r) ∧
    m₂ = fire v₂ s g callback₂ (.reply r) ∧ Alongside c k gs n k₁ v₁ v₂ ∧
    Reports c callback₁ ∧ Reports c callback₂

theorem abreast_reply (h : Alongside c k gs n k₁ w₁ w₂) (g : GateId) (r : Reply) :
    Abreast c k gs n k₁ s (reply w₁ s r) (reply w₂ s r) :=
  ⟨w₁, w₂, g, none, none, r, rfl, rfl, h, nofun, nofun⟩

theorem Alongside.giveBack (h : Alongside c k gs n k₁ w₁ w₂) (g : GateId) (p : PermitId) :
    Abreast c k gs n k₁ s (giveBack w₁ s g p) (giveBack w₂ s g p) := by
  unfold Machine.giveBack
  rw [h.gates g]
  cases hx : w₂.gates g with
  | none => exact abreast_reply h g .absent
  | some x =>
    simp only [Option.map_some, World.release]
    cases hr : x.release? p with
    | none =>
      rw [Gate.closedIn_release?_eq_none hr]
      simp only [Gate.closedIn_name]
      exact abreast_reply (h.note _ _) g _
    | some y =>
      obtain ⟨y, callback⟩ := y
      obtain ⟨hrep, callback', hrep', hr', hv⟩ := h.release hx hr
      rw [hr']
      exact ⟨_, _, g, callback', callback, _, rfl, rfl, hv, hrep', hrep⟩

theorem Alongside.letGo (h : Alongside c k gs n k₁ w₁ w₂) (p : Permit) (r : Reply) :
    Abreast c k gs n k₁ s (letGo w₁ s p (.reply r)) (letGo w₂ s p (.reply r)) := by
  unfold Machine.letGo
  rw [h.gates p.gate]
  cases hx : w₂.gates p.gate with
  | none => exact abreast_reply h p.gate r
  | some x =>
    simp only [Option.map_some, World.drop, World.release]
    cases hr : x.release? p.id with
    | none =>
      rw [Gate.closedIn_release?_eq_none hr]
      exact abreast_reply ((h.note _ _).note _ _) p.gate r
    | some y =>
      obtain ⟨y, callback⟩ := y
      obtain ⟨hrep, callback', hrep', hr', hv⟩ := h.release hx hr
      rw [hr']
      exact ⟨_, _, p.gate, callback', callback, r, rfl, rfl, hv, hrep', hrep⟩

/-- **To give back a permit answers the same in both worlds.** -/
theorem Alongside.perform_return (h : Alongside c k gs n k₁ w₁ w₂) (hop : op.isReturn = true) :
    Abreast c k gs n k₁ s (perform w₁ s op) (perform w₂ s op) := by
  cases op with
  | release p => exact h.giveBack p.gate p.id
  | drop p => exact h.letGo p .done
  | releaseVia g p =>
    simp only [perform, releaseVia, h.gates]
    cases w₂.gates g with
    | none => exact abreast_reply h g .absent
    | some x =>
      cases w₂.gates p.gate with
      | none => exact abreast_reply h g .absent
      | some y =>
        simp only [Option.map_some, Gate.closedIn_name]
        split
        · exact h.giveBack g p.id
        · exact (h.note _ _).letGo p _
  | releaseTicket g t =>
    simp only [perform, releaseTicket, h.gates]
    cases w₂.gates g with
    | none => exact abreast_reply h g .absent
    | some x =>
      simp only [Option.map_some, Gate.closedIn_name]
      split
      · exact h.giveBack g t.permit
      · exact abreast_reply (h.note _ _) g _
  | _ => cases hop

theorem Alongside.acquire (h : Alongside c k [] n k₁ w₁ w₂) (g : GateId) (p : PermitId) :
    Abreast c k [] n k₁ s (acquire w₁ s g p) (acquire w₂ s g p) := by
  unfold Machine.acquire
  rw [h.gates_eq, h.issuer_eq]
  cases hx : w₂.gates g with
  | none => exact abreast_reply h g .absent
  | some x =>
    cases hp : w₂.issuer p with
    | some f => exact abreast_reply h g .absent
    | none =>
      simp only
      split
      · rename_i ho
        exact abreast_reply (h.letIn hx ho) g .done
      · rw [turnAway_eq (by rw [h.gates_eq, hx]) (h.sound g x hx), turnAway_eq hx (h.sound g x hx)]
        exact abreast_reply h g _

/-- The operations that do the same in both worlds: to give back a permit, and once no gate is closed
also to ask for one. -/
def Follows (gs : List GateId) (op : Op) : Prop :=
  op.isReturn = true ∨ (gs = [] ∧ op.isPermit = true)

theorem Alongside.perform (h : Alongside c k gs n k₁ w₁ w₂) (hop : Follows gs op) :
    Abreast c k gs n k₁ s (perform w₁ s op) (perform w₂ s op) := by
  rcases hop with hop | ⟨rfl, hop⟩
  · exact h.perform_return hop
  · by_cases hr : op.isReturn = true
    · exact h.perform_return hr
    · -- the only permit operation that gives nothing back
      cases op with
      | acquire g p => exact h.acquire g p
      | _ => exact absurd hop hr

theorem Abreast.exists_comesBack (h : Abreast c k gs n k₁ s m₁ m₂) :
    (∃ n₁, ComesBack s m₁ n₁) ∧ ∃ n₂, ComesBack s m₂ n₂ := by
  obtain ⟨v₁, v₂, g, cb₁, cb₂, r, rfl, rfl, -, hr₁, hr₂⟩ := h
  exact ⟨exists_comesBack_fire hr₁ _ _ _ _, exists_comesBack_fire hr₂ _ _ _ _⟩

/-- **Once the hooks are back** both machines have answered the same, and their worlds are alongside as
before: the coordinator that runs has heard nothing. -/
theorem Abreast.comesBack (h : Abreast c k gs n k₁ s m₁ m₂) (hk : k.Quiet) (hk₁ : k.Astray k₁)
    (hm₁ : ComesBack s m₁ n₁) (hm₂ : ComesBack s m₂ n₂) :
    n₁.stack = s ∧ n₂.stack = s ∧ (∃ r, n₁.signal = .replied r ∧ n₂.signal = .replied r) ∧
      ∃ k₁', k₁.Heard k₁' ∧ Alongside c k gs n k₁' n₁.world n₂.world := by
  obtain ⟨v₁, v₂, g, cb₁, cb₂, r, rfl, rfl, hv, hr₁, hr₂⟩ := h
  have hquiet : k₁.outbox = [] ∧ k₁.dispatching = false := by
    obtain ⟨_, _, _, _, _, _, rfl⟩ := hk₁
    exact ⟨hk.outbox, hk.dispatching⟩
  obtain ⟨hs₁, ha₁, k₁', hb₁, hheard⟩ := fire_comesBack hr₁ hv.turned hquiet.1 hquiet.2 hm₁
  obtain ⟨hs₂, ha₂, k', hb₂, hheard'⟩ := fire_comesBack hr₂ hv.coordinator hk.outbox hk.dispatching hm₂
  rw [hheard'.idle hk.pending] at hb₂
  exact ⟨hs₁, hs₂, ⟨r, ha₁, ha₂⟩, k₁', hheard, hv.becomes hb₁ hb₂⟩

/-! ## Runs side by side -/

/-- Two machines run the same code in worlds alongside, and no hook of the coordinator. -/
structure Matched (c : CoordinatorId) (k : Coordinator) (gs : List GateId) (n : Nat)
    (k₁ : Coordinator) (m₁ m₂ : Machine) : Prop where
  worlds : Alongside c k gs n k₁ m₁.world m₂.world
  stack : m₁.stack = m₂.stack
  live₁ : m₁.signal ≠ .aborted
  live₂ : m₂.signal ≠ .aborted
  quiet : k.Quiet
  astray : k.Astray k₁

/-- **An operation that both worlds follow** is abreast in both. -/
theorem Matched.step (h : Matched c k gs n k₁ m₁ m₂) (hop : Follows gs op) :
    Abreast c k gs n k₁ m₁.stack (step m₁ (.call op)) (step m₂ (.call op)) := by
  unfold Machine.step
  rw [if_neg h.live₁, if_neg h.live₂, ← h.stack]
  exact h.worlds.perform hop

theorem Matched.comesBack (h : Matched c k gs n k₁ m₁ m₂) (hop : Follows gs op)
    (hm₁ : ComesBack m₁.stack (Machine.step m₁ (.call op)) n₁)
    (hm₂ : ComesBack m₂.stack (Machine.step m₂ (.call op)) n₂) :
    n₁.stack = m₁.stack ∧ (∃ r, n₁.signal = .replied r ∧ n₂.signal = .replied r) ∧
      ∃ k₁', k₁.Heard k₁' ∧ Matched c k gs n k₁' n₁ n₂ := by
  rw [← h.stack] at hm₂
  obtain ⟨hs₁, hs₂, ⟨r, ha₁, ha₂⟩, k₁', hheard, hw⟩ :=
    (h.step hop).comesBack h.quiet h.astray hm₁ hm₂
  have hlive {m : Machine} (ha : m.signal = .replied r) : m.signal ≠ .aborted := by
    rw [ha]
    nofun
  exact ⟨hs₁, ⟨r, ha₁, ha₂⟩, k₁', hheard, hw, hs₁.trans hs₂.symm, hlive ha₁, hlive ha₂, h.quiet,
    h.astray.heard hheard⟩

/-- **Operations in turn answer the same in both runs**, and leave them matched. -/
theorem Matched.performs {rs₁ rs₂ : List Reply} (h : Matched c k gs n k₁ m₁ m₂)
    (hops : ∀ op ∈ ops, Follows gs op) (hm₁ : Performs m₁ ops rs₁ n₁) (hm₂ : Performs m₂ ops rs₂ n₂) :
    rs₁ = rs₂ ∧ n₁.stack = m₁.stack ∧ ∃ k₁', k₁.Heard k₁' ∧ Matched c k gs n k₁' n₁ n₂ := by
  induction hm₁ generalizing m₂ k₁ rs₂ with
  | nil =>
    cases hm₂
    exact ⟨rfl, rfl, k₁, .refl k₁, h⟩
  | @cons m₁ l₁ n₁ op ops r₁ rs₁ hc₁ hr₁ _ ih =>
    cases hm₂ with
    | @cons _ l₂ _ _ _ r₂ rs₂ hc₂ hr₂ hm₂ =>
      have hop : Follows gs op := hops op List.mem_cons_self
      obtain ⟨hs, ⟨r, ha₁, ha₂⟩, k₂, hheard, hl⟩ := h.comesBack hop hc₁ hc₂
      obtain rfl : r₁ = r := Signal.replied.inj (hr₁.symm.trans ha₁)
      obtain rfl : r₂ = r₁ := Signal.replied.inj (hr₂.symm.trans ha₂)
      have hrest := ih hl (fun op hop => hops op (List.mem_cons_of_mem _ hop)) hm₂
      obtain ⟨rfl, hs', k₃, hheard', hn⟩ := hrest
      exact ⟨rfl, hs'.trans hs, k₃, hheard.trans hheard', hn⟩

/-- Operations can be called in turn in both runs. -/
theorem Matched.exists_performs (h : Matched c k gs n k₁ m₁ m₂) (hops : ∀ op ∈ ops, Follows gs op) :
    ∃ rs n₁ n₂, Performs m₁ ops rs n₁ ∧ Performs m₂ ops rs n₂ := by
  induction ops generalizing m₁ m₂ k₁ with
  | nil => exact ⟨[], m₁, m₂, .nil, .nil⟩
  | cons op ops ih =>
    have hop : Follows gs op := hops op List.mem_cons_self
    obtain ⟨⟨l₁, hc₁⟩, l₂, hc₂⟩ := (h.step hop).exists_comesBack
    rw [h.stack] at hc₂
    obtain ⟨-, ⟨r, ha₁, ha₂⟩, k₂, -, hl⟩ := h.comesBack hop hc₁ hc₂
    obtain ⟨rs, n₁, n₂, hn₁, hn₂⟩ := ih hl fun op hop => hops op (List.mem_cons_of_mem _ hop)
    exact ⟨r :: rs, n₁, n₂, .cons hc₁ ha₁ hn₁, .cons hc₂ ha₂ hn₂⟩

/-! ## Before and after -/

/-- **The coordinator suspends** and its hooks come back: its gates are closed, and all else is
alongside. -/
theorem alongside_suspend {w : World} {r : Reply} (hw : w.Sound) (hk : w.coordinators c = some k)
    (hq : k.Quiet) (hopen : ∀ g ∈ k.gates, ∀ x, w.gates g = some x → x.state = .running)
    (hr : ∀ g x, w.gates g = some x → Reports c x.callback)
    (hm : ComesBack s (dispatch (w.suspend c k) s c (.reply r)) n₁) :
    n₁.stack = s ∧ n₁.signal = .replied r ∧ ∃ k₁, k.Astray k₁ ∧ k₁.generation = k.generation + 1 ∧
      k₁.state ≠ .running ∧ Alongside c k k.gates (k.generation + 1) k₁ n₁.world w := by
  have hcoord : (w.suspend c k).coordinators c = some (k.suspendedWith (w.busy k.gates) w.date) := by
    rw [suspend_coordinators, Table.set_self]
  have hd : (k.suspendedWith (w.busy k.gates) w.date).dispatching = false := by
    rw [Coordinator.suspendedWith_dispatching]
    exact hq.dispatching
  obtain ⟨hs, ha, hb, -⟩ := dispatch_comesBack hcoord hd hm
  refine ⟨hs, ha, _, Coordinator.astray_suspendedWith hq (w.busy k.gates) w.date,
    Coordinator.suspendedWith_generation k (w.busy k.gates) w.date, ?_, ?_, fun g => ?_, ?_, hk, hw.gates,
    hopen, hr⟩
  · simp only [Coordinator.suspendedWith_state]
    split <;> decide
  · rw [hb.remainder, suspend_remainder]
  · rw [hb.gates, suspend_gates]
    unfold Gate.closedIn
    split
    · rfl
    · exact Option.map_id'.symm
  · rw [hb.coordinators, suspend_coordinators, Table.set_set]

/-- **The coordinator resumes** and its hooks come back: its gates are as if they had never been closed,
and the coordinator but for the generation and the number of its transitions. -/
theorem Alongside.resume {r : Reply} (h : Alongside c k k.gates n k₁ w₁ w₂) (hq : k.Quiet)
    (hks : k.Sound) (hs : k.state = .running) (hk₁ : k.Astray k₁)
    (hn : k₁.generation = k.generation + 1)
    (hm : ComesBack s (dispatch (w₁.resume c k₁) s c (.reply r)) n₁) :
    n₁.stack = s ∧ n₁.signal = .replied r ∧ ∃ version,
      Alongside c k [] n { k with generation := k.generation + 2, version } n₁.world w₂ := by
  have hcoord : (w₁.resume c k₁).coordinators c = some k₁.reopening := by
    rw [resume_coordinators, Table.set_self]
  have hkept : k₁.gates = k.gates ∧ k₁.reopening.dispatching = false := by
    obtain ⟨_, _, _, _, _, _, rfl⟩ := hk₁
    rw [Coordinator.reopening_dispatching]
    exact ⟨rfl, hq.dispatching⟩
  obtain ⟨hstack, ha, hb, -⟩ := dispatch_comesBack hcoord hkept.2 hm
  rw [Coordinator.reopening_eq hq hks hs hk₁, hn] at hb
  refine ⟨hstack, ha, k₁.version + 1, ?_, fun g => ?_, ?_, h.coordinator, h.sound, nofun, h.reports⟩
  · rw [hb.remainder, resume_remainder, h.remainder]
  · -- closing and opening undo each other
    rw [hb.gates, resume_gates, h.gates g, hkept.1, map_closedIn_nil]
    unfold Gate.closedIn
    cases hx : w₂.gates g with
    | none => simp
    | some x =>
      by_cases hg : g ∈ k.gates
      · simp only [hg, if_true, Option.map_some]
        rw [Gate.reopen_beginDrain (h.sound g x hx) (h.opened g hg x hx)]
      · simp [hg]
  · rw [hb.coordinators, resume_coordinators, h.coordinators, Table.set_set, Table.set_set]

/-- The worlds differ in nothing but the journal and, for one coordinator, in how often it has made a
transition and in the generation, which is larger by two in the first. -/
def Restored (c : CoordinatorId) (k : Coordinator) (w₁ w₂ : World) : Prop :=
  w₂.coordinators c = some k ∧ ∃ version,
    w₁ = { w₂ with
      coordinators := w₂.coordinators.set c { k with generation := k.generation + 2, version }
      journal := w₁.journal }

theorem Alongside.restored {version : Nat}
    (h : Alongside c k [] n { k with generation := k.generation + 2, version } w₁ w₂) :
    Restored c k w₁ w₂ := by
  refine ⟨h.coordinator, version, ?_⟩
  have hg : w₁.gates = w₂.gates := h.gates_eq
  have hr : w₁.remainder = w₂.remainder := h.remainder
  rw [← h.coordinators]
  -- field by field
  obtain ⟨_, _, _, _, _, _, _, _, _⟩ := w₁
  obtain ⟨_, _, _, _, _, _, _, _, _⟩ := w₂
  cases hg
  cases hr
  rfl

/-- Permit operations in turn keep a world restored, and answer the same. -/
theorem Matched.performs_restored {version : Nat} {rs₁ rs₂ : List Reply} {l₁ l₂ : Machine}
    (h : Matched c k [] n { k with generation := k.generation + 2, version } n₁ n₂)
    (hops : ∀ op ∈ ops, op.isPermit = true) (h₁ : Performs n₁ ops rs₁ l₁)
    (h₂ : Performs n₂ ops rs₂ l₂) :
    rs₁ = rs₂ ∧ l₁.stack = l₂.stack ∧ Restored c k l₁.world l₂.world := by
  have hfollows (op : Op) (hop : op ∈ ops) : Follows [] op := .inr ⟨rfl, hops op hop⟩
  obtain ⟨hrs, -, k', hheard, hl⟩ := h.performs hfollows h₁ h₂
  -- a coordinator that waits for nothing hears nothing
  rw [hheard.idle h.quiet.pending] at hl
  exact ⟨hrs, hl.stack, hl.worlds.restored⟩

/-! ## A suspend that is undone -/

/-- A coordinator runs with its gates open, and none but its own callbacks are held. -/
structure Undisturbed (c : CoordinatorId) (k : Coordinator) (m : Machine) : Prop where
  sound : m.world.Sound
  coordinator : m.world.coordinators c = some k
  running : k.state = .running
  quiet : k.Quiet
  opened : ∀ g ∈ k.gates, ∀ x, m.world.gates g = some x → x.state = .running
  reports : ∀ g x, m.world.gates g = some x → Reports c x.callback
  live : m.signal ≠ .aborted

section Undisturbed

variable {m : Machine} {V : List Op} {rs₁ rs₂ : List Reply}

theorem step_suspend (hk : m.world.coordinators c = some k) (hs : k.state = .running)
    (ha : m.signal ≠ .aborted) :
    step m (.call (.suspend c)) = dispatch (m.world.suspend c k) m.stack c (.reply .done) := by
  unfold Machine.step
  rw [if_neg ha]
  simp only [perform, Machine.suspend, hk, hs, if_true]

theorem step_resume (hk : m.world.coordinators c = some k) (hs : k.state ≠ .running)
    (ha : m.signal ≠ .aborted) :
    step m (.call (.resume c)) = dispatch (m.world.resume c k) m.stack c (.reply .done) := by
  unfold Machine.step
  rw [if_neg ha]
  simp only [perform, Machine.resume, hk, hs, if_false]

/-- **The coordinator suspends**, and its hooks come back. -/
theorem Undisturbed.suspend (h : Undisturbed c k m)
    (hm : ComesBack m.stack (step m (.call (.suspend c))) n₁) :
    n₁.stack = m.stack ∧ n₁.signal = .replied .done ∧ ∃ k₁, k₁.generation = k.generation + 1 ∧
      k₁.state ≠ .running ∧ Matched c k k.gates (k.generation + 1) k₁ n₁ m := by
  rw [step_suspend h.coordinator h.running h.live] at hm
  obtain ⟨hs, ha, k₁, hk₁, hn, hc, hw⟩ :=
    alongside_suspend h.sound h.coordinator h.quiet h.opened h.reports hm
  have hlive : n₁.signal ≠ .aborted := by
    rw [ha]
    nofun
  exact ⟨hs, ha, k₁, hn, hc, hw, hs, hlive, h.live, h.quiet, hk₁⟩

/-- **The coordinator resumes**, and its hooks come back. -/
theorem Undisturbed.resume (h : Undisturbed c k m) (hn : k₁.generation = k.generation + 1)
    (hc : k₁.state ≠ .running) (hl : Matched c k k.gates n k₁ m₁ m₂)
    (hm : ComesBack m₁.stack (step m₁ (.call (.resume c))) n₁) :
    n₁.stack = m₁.stack ∧ n₁.signal = .replied .done ∧ ∃ version,
      Matched c k [] n { k with generation := k.generation + 2, version } n₁ m₂ := by
  have hks : k.Sound := (h.sound.coordinators c k h.coordinator).sound
  rw [step_resume hl.worlds.turned hc hl.live₁] at hm
  obtain ⟨hs, ha, version, hw⟩ := hl.worlds.resume h.quiet hks h.running hl.astray hn hm
  have hlive : n₁.signal ≠ .aborted := by
    rw [ha]
    nofun
  exact ⟨hs, ha, version, hw, hs.trans hl.stack, hlive, hl.live₂, h.quiet, _, _, _, _, _, _, rfl⟩

/-- **The suspended run answers as the other does**, and what it leaves is restored. -/
theorem Undisturbed.undone (h : Undisturbed c k m) (hV : ∀ op ∈ V, op.isReturn = true)
    (h₁ : Performs m (.suspend c :: (V ++ [.resume c])) rs₁ n₁) (h₂ : Performs m V rs₂ n₂) :
    rs₁ = .done :: (rs₂ ++ [.done]) ∧ n₁.stack = m.stack ∧ ∃ version,
      Matched c k [] (k.generation + 1) { k with generation := k.generation + 2, version } n₁ n₂ := by
  cases h₁ with
  | @cons _ l₁ _ _ _ r rs hm hr hrest =>
    obtain ⟨hl₁, ha₁, k₁, hn₁, hc₁, hl⟩ := h.suspend hm
    obtain ⟨rs, rs', l₂, rfl, hrun, hend⟩ := hrest.split
    obtain ⟨rfl, hl₂, k₂, hheard, hmatched⟩ := hl.performs (fun op hop => .inl (hV op hop)) hrun h₂
    cases hend with
    | @cons _ l₃ _ _ _ r' _ hm' hr' hnil =>
      cases hnil
      obtain ⟨hs, ha₃, version, hdone⟩ :=
        h.resume (hheard.generation.trans hn₁) (hheard.closed hc₁) hmatched hm'
      obtain rfl : r = .done := Signal.replied.inj (hr.symm.trans ha₁)
      obtain rfl : r' = .done := Signal.replied.inj (hr'.symm.trans ha₃)
      exact ⟨rfl, hs.trans (hl₂.trans hl₁), version, hdone⟩

/-- Both runs are possible. -/
theorem Undisturbed.exists_undone (h : Undisturbed c k m) (hV : ∀ op ∈ V, op.isReturn = true) :
    ∃ rs n₁ n₂, Performs m (.suspend c :: (V ++ [.resume c])) (.done :: (rs ++ [.done])) n₁ ∧
      Performs m V rs n₂ := by
  have hfollows (op : Op) (hop : op ∈ V) : Follows k.gates op := .inl (hV op hop)
  obtain ⟨l₁, hm⟩ := exists_comesBack_dispatch (m.world.suspend c k) m.stack c (.reply .done)
  rw [← step_suspend h.coordinator h.running h.live] at hm
  obtain ⟨-, ha₁, k₁, hn₁, hc₁, hl⟩ := h.suspend hm
  obtain ⟨rs, l₂, n₂, hrun, h₂⟩ := hl.exists_performs hfollows
  obtain ⟨-, -, k₂, hheard, hmatched⟩ := hl.performs hfollows hrun h₂
  -- the coordinator has not resumed by itself
  have hc₂ : k₂.state ≠ .running := hheard.closed hc₁
  obtain ⟨n₁, hm'⟩ := exists_comesBack_dispatch (l₂.world.resume c k₂) l₂.stack c (.reply .done)
  rw [← step_resume hmatched.worlds.turned hc₂ hmatched.live₁] at hm'
  obtain ⟨-, ha₃, -⟩ := h.resume (hheard.generation.trans hn₁) hc₂ hmatched hm'
  exact ⟨rs, n₁, n₂, .cons hm ha₁ (hrun.append (.cons hm' ha₃ .nil)), h₂⟩

end Undisturbed

/-- **A suspend that is undone leaves no trace on work.** In any reachable state let a coordinator be
running with its gates open, its hooks call nothing, and gates hold none but its callbacks. To suspend
it, give back permits and resume it answers as to give back the permits does, and leaves all as that
does, but for the journal, the coordinator's generation, which is larger by two, and the number of its
transitions. So do permit operations afterwards. -/
theorem suspend_undone (moves : List Move) {c : CoordinatorId} {k : Coordinator}
    (hk : (run {} moves).world.coordinators c = some k) (hs : k.state = .running)
    (hopen : ∀ g ∈ k.gates, ∀ x, (run {} moves).world.gates g = some x → x.state = .running)
    (hr : ∀ g x cb, (run {} moves).world.gates g = some x → x.callback = some cb →
      ∃ n, cb = .report c n)
    (hh : hooks c (run {} moves).stack = []) (ha : (run {} moves).signal ≠ .aborted) {V : List Op}
    (hV : ∀ op ∈ V, op.isReturn = true) :
    let m := run {} moves
    (∃ rs n₁, Performs m (.suspend c :: (V ++ [.resume c])) rs n₁) ∧
    (∃ rs n₂, Performs m V rs n₂) ∧
    ∀ rs₁ rs₂ n₁ n₂, Performs m (.suspend c :: (V ++ [.resume c])) rs₁ n₁ → Performs m V rs₂ n₂ →
      rs₁ = .done :: (rs₂ ++ [.done]) ∧ n₁.stack = m.stack ∧ n₂.stack = m.stack ∧
        Restored c k n₁.world n₂.world ∧
        ∀ U : List Op, (∀ op ∈ U, op.isPermit = true) →
          (∃ rs l₁, Performs n₁ U rs l₁) ∧ (∃ rs l₂, Performs n₂ U rs l₂) ∧
          ∀ rs₁ rs₂ l₁ l₂, Performs n₁ U rs₁ l₁ → Performs n₂ U rs₂ l₂ →
            rs₁ = rs₂ ∧ l₁.stack = l₂.stack ∧ Restored c k l₁.world l₂.world := by
  intro m
  have hw : m.world.Sound := run_sound moves
  have hks : k.Sound := (hw.coordinators c k hk).sound
  have hquiet : k.Quiet := by
    obtain ⟨ho, hd⟩ := (run_told moves c).resting hk hh
    exact ⟨hks.pending_of_running hs, ho, hd⟩
  have h : Undisturbed c k m :=
    ⟨hw, hk, hs, hquiet, hopen, fun g x hx cb hcb => hr g x cb hx hcb, ha⟩
  obtain ⟨rs, n₁, n₂, hn₁, hn₂⟩ := h.exists_undone hV
  refine ⟨⟨_, n₁, hn₁⟩, ⟨rs, n₂, hn₂⟩, fun rs₁ rs₂ n₁ n₂ h₁ h₂ => ?_⟩
  obtain ⟨hrs, hs₁, version, hdone⟩ := h.undone hV h₁ h₂
  refine ⟨hrs, hs₁, hdone.stack.symm.trans hs₁, hdone.worlds.restored, fun U hU => ?_⟩
  obtain ⟨rs, l₁, l₂, hl₁, hl₂⟩ := hdone.exists_performs fun op hop => .inr ⟨rfl, hU op hop⟩
  exact ⟨⟨rs, l₁, hl₁⟩, ⟨rs, l₂, hl₂⟩, fun _ _ _ _ h₁ h₂ => hdone.performs_restored hU h₁ h₂⟩

/-- A listener is told that the suspend starts, that it is complete when the permit comes back, and of the
resume. The permit that comes back a second time is refused, and the gate is open as if nothing had
been. -/
theorem suspend_undone_release :
    let c : CoordinatorId := ⟨0⟩
    let p : Permit := ⟨⟨⟨1, by decide⟩⟩, ⟨⟨0, by decide⟩⟩⟩
    let moves : List Move := [.call (.newCoordinator c), .call (.registerGate c p.gate "a"),
      .call (.addListener c ⟨⟨0⟩, "l"⟩ fun _ => .accept), .call (.acquire p.gate p.id)]
    let m := run {} moves
    ∃ n, Performs m [.suspend c, .release p, .release p, .resume c]
        [.done, .done, .refused (.doubleRelease "a" p.id), .done] n ∧
      n.stack = [] ∧ n.world.gates p.gate = some { name := "a" } := by
  intro c p moves m
  have hk : (run {} moves).world.coordinators c =
      some { gates := [p.gate], listeners := [⟨⟨0⟩, "l"⟩] } := by decide +kernel
  have hg : (run {} moves).world.gates p.gate =
      some { name := "a", outstanding := 1, permits := [p.id] } := by decide +kernel
  -- there is no other gate
  have hopen (f : GateId) (x : Gate) (hx : (run {} moves).world.gates f = some x) :
      x.state = .running ∧ x.callback = none := by
    by_cases hf : f = p.gate
    · subst hf
      cases hg.symm.trans hx
      exact ⟨rfl, rfl⟩
    · have hnone : (run {} moves).world.gates f = none := by
        repeat refine (if_neg hf).trans ?_
        rfl
      cases hnone.symm.trans hx
  obtain ⟨⟨rs₁, n₁, h₁⟩, -, hsame⟩ := suspend_undone moves hk rfl (fun f _ x hx => (hopen f x hx).1)
    (fun f x cb hx hcb => (nomatch (hopen f x hx).2.symm.trans hcb)) (by decide +kernel)
    (by decide +kernel) (V := [.release p, .release p]) (by decide)
  -- to give the permit back twice enters no code
  let n₂ : Machine := run {} (moves ++ [.call (.release p), .call (.release p)])
  have h₂ : Performs m [.release p, .release p] [.done, .refused (.doubleRelease "a" p.id)] n₂ :=
    .cons (.back (by decide +kernel)) (by decide +kernel)
      (.cons (.back (by decide +kernel)) (by decide +kernel) .nil)
  have hg₂ : n₂.world.gates p.gate = some { name := "a" } := by decide +kernel
  obtain ⟨rfl, hs, -, ⟨-, version, hw⟩, -⟩ := hsame rs₁ _ n₁ n₂ h₁ h₂
  refine ⟨n₁, h₁, ?_, ?_⟩
  · rw [hs]
    decide +kernel
  · rw [hw]
    exact hg₂

end Machine

end Sluice
