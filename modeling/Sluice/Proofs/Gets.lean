import Sluice.Proofs.Patience

/-!
# What the next callers get

A pool says how many objects are idle and how many may still be made. Together this is how many callers get an
object at once.

* `Machine.serve`: callers ask for an object one after another, with a factory that makes what it is asked for.
* `Served`: what has become of a pool after so many of them. **Every caller that is served takes it one further**
  (`Served.serve`, `served_serve`).
* `Served.reuses`, `Served.creates`, `Served.blocks`: what the next caller finds: an idle object, a slot, or
  nothing.
* `available_exact`: this for any pool that can be reached.
-/

namespace Sluice.Pool.Machine

variable {α : Type} {m m' : Machine α} {c c' : CallerId} {obj : α} {d : Option Nat} {k : Nat}

/-- What a caller does for an object, with a factory that makes this one if it is asked for one. -/
def gets (c : CallerId) (obj : α) : List (Move α) := [.call c .get, .resume c, .worked c (.made obj)]

/-- Callers ask for an object one after another. -/
def serve (m : Machine α) (customers : List (CallerId × α)) : Machine α :=
  m.run (customers.flatMap fun x => gets x.1 x.2)

theorem serve_snoc (m : Machine α) (customers : List (CallerId × α)) (x : CallerId × α) :
    m.serve (customers ++ [x]) = (m.serve customers).run (gets x.1 x.2) := by
  unfold serve run
  rw [List.flatMap_append, List.foldl_append, List.flatMap_singleton]

/-! ## One caller -/

theorem put_put (m : Machine α) (c : CallerId) (p q : Phase α) : (m.put c p).put c q = m.put c q := by
  unfold put
  rw [Table.set_set]

/-- A caller that may ask starts to try. -/
theorem run_ask (hf : m.isFree c = true) :
    m.run [.call c .get, .resume c] = (m.put c (.trying m.deadline)).attempt c m.deadline := by
  have hs : m.step (.call c .get) = m.put c (.trying m.deadline) := if_pos hf
  show (m.step (.call c .get)).step (.resume c) = _
  rw [hs]
  simp only [step, resume, put_self]

/-- **An idle object is taken.** -/
theorem ask_of_idle {rest : List α} (hf : m.isFree c = true) (hi : m.pool.idle = obj :: rest) :
    m.run [.call c .get, .resume c] = m.reuse c obj rest := by
  rw [run_ask hf]
  have hidle : (m.put c (.trying m.deadline)).pool.idle = obj :: rest := hi
  unfold attempt
  rw [hidle]
  exact put_put (({ m with pool := { m.pool with idle := rest } }.note (.reused obj))) c _ _

/-- **A slot is taken** if no object is idle and there is one. -/
theorem ask_of_hasRoom (hf : m.isFree c = true) (hi : m.pool.idle = []) (hr : m.pool.hasRoom = true) :
    m.run [.call c .get, .resume c] = m.takeSlot c := by
  rw [run_ask hf]
  have hidle : (m.put c (.trying m.deadline)).pool.idle = [] := hi
  have hroom : (m.put c (.trying m.deadline)).pool.hasRoom = true := hr
  unfold attempt
  simp only [hidle, hroom, if_true]
  exact put_put { m with pool := { m.pool with instances := m.pool.instances + 1 } } c _ _

/-- **A caller that finds neither is about to look again.** -/
theorem ask_of_atCeiling (hf : m.isFree c = true) (ha : m.pool.AtCeiling) :
    m.run [.call c .get, .resume c] = m.put c (.looking m.deadline) := by
  rw [run_ask hf, attempt_of_atCeiling (m := m.put c _) ha]
  exact put_put m c _ _

theorem run_gets (m : Machine α) (c : CallerId) (obj : α) :
    m.run (gets c obj) = (m.run [.call c .get, .resume c]).step (.worked c (.made obj)) := rfl

/-- The factory is not asked for an object where one is idle. -/
theorem gets_of_idle {rest : List α} {made : α} (hf : m.isFree c = true) (hi : m.pool.idle = obj :: rest) :
    m.run (gets c made) = m.reuse c obj rest := by
  have hback : (m.reuse c obj rest).callers c = some (.returned (.got obj)) := put_self _ _ _
  rw [run_gets, ask_of_idle hf hi]
  simp only [step, worked, hback]

/-- What the factory makes goes to the caller. -/
theorem made_takeSlot (m : Machine α) (c : CallerId) (obj : α) :
    (m.takeSlot c).step (.worked c (.made obj)) =
      (({ m with pool := { m.pool with
          instances := m.pool.instances + 1, createCount := m.pool.createCount + 1 } }.note
        (.created obj)).put c (.returned (.got obj))) := by
  have hback : (m.takeSlot c).callers c = some .creating := put_self _ _ _
  simp only [step, worked, hback]
  exact put_put ({ m with pool := { m.pool with
    instances := m.pool.instances + 1, createCount := m.pool.createCount + 1 } }.note (.created obj)) c _ _

theorem isFree_put_returned {r : Result α} (hf : m.isFree c = true) :
    (m.put c' (.returned r)).isFree c = true := by
  unfold isFree
  by_cases hc : c = c'
  · subst hc
    rw [put_self]
  · rw [put_of_ne hc]
    exact hf

/-! ## One caller after another -/

/-- What has become of a pool after it has served so many callers. -/
structure Served (m m' : Machine α) (k : Nat) : Prop where
  idle : m'.pool.idle = m.pool.idle.drop k
  instances : m'.pool.instances = m.pool.instances + (k - m.pool.idle.length)
  created : m'.pool.createCount = m.pool.createCount + (k - m.pool.idle.length)
  cap : m'.pool.maxInstances = m.pool.maxInstances
  timeout : m'.pool.timeoutMillis = m.pool.timeoutMillis
  clock : m'.clock = m.clock
  free : ∀ c, m.isFree c = true → m'.isFree c = true

theorem served_zero (m : Machine α) : m.Served m 0 := by
  refine ⟨rfl, ?_, ?_, rfl, rfl, rfl, fun _ => id⟩ <;> omega

/-- When the idle objects are gone there are slots, as many as may still be taken. -/
theorem Served.hasRoom (h : m.Served m' k) (hi : m.pool.idle.length ≤ k)
    (hk : m.pool.maxInstances = 0 ∨ k < m.pool.idle.length + m.pool.available) :
    m'.pool.idle = [] ∧ m'.pool.hasRoom = true := by
  have hinst := h.instances
  have hcap := h.cap
  unfold Pool.available at hk
  simp only [Pool.hasRoom, Bool.or_eq_true, decide_eq_true_eq]
  exact ⟨by rw [h.idle, List.drop_eq_nil_of_le hi], by omega⟩

/-- When these are gone too, nothing is to be had. -/
theorem Served.atCeiling (h : m.Served m' k) (hc : 0 < m.pool.maxInstances)
    (hk : k = m.pool.idle.length + m.pool.available) : m'.pool.AtCeiling := by
  have hinst := h.instances
  have hcap := h.cap
  unfold Pool.available at hk
  exact ⟨by rw [h.idle, List.drop_eq_nil_of_le (by omega)], by omega, by omega⟩

theorem Served.idle_eq_cons (h : m.Served m' k) (hk : k < m.pool.idle.length) :
    m'.pool.idle = m.pool.idle[k] :: m.pool.idle.drop (k + 1) := by
  rw [h.idle, List.drop_eq_getElem_cons hk]

/-- **A caller that is served takes the pool one further**: an object was idle, or one could be made. -/
theorem Served.next (h : m.Served m' k) (hf : m.isFree c = true)
    (hk : m.pool.maxInstances = 0 ∨ k < m.pool.idle.length + m.pool.available) :
    m.Served (m'.run (gets c obj)) (k + 1) := by
  by_cases hi : k < m.pool.idle.length
  · rw [gets_of_idle (h.free c hf) (h.idle_eq_cons hi)]
    have hnone : k - m.pool.idle.length = k + 1 - m.pool.idle.length := by omega
    exact ⟨rfl, hnone ▸ h.instances, hnone ▸ h.created, h.cap, h.timeout, h.clock,
      fun x hx => isFree_put_returned (h.free x hx)⟩
  · have hinst := h.instances
    have hcreated := h.created
    obtain ⟨hidle, hroom⟩ := h.hasRoom (by omega) hk
    rw [run_gets, ask_of_hasRoom (h.free c hf) hidle hroom, made_takeSlot]
    refine ⟨?_, ?_, ?_, h.cap, h.timeout, h.clock, fun x hx => isFree_put_returned (h.free x hx)⟩
    · rw [List.drop_eq_nil_of_le (by omega)]
      exact hidle
    · show m'.pool.instances + 1 = _
      omega
    · show m'.pool.createCount + 1 = _
      omega

/-- As many callers are served as objects are idle or may be made. -/
theorem serve_served (m : Machine α) (customers : List (CallerId × α))
    (hf : ∀ x ∈ customers, m.isFree x.1 = true)
    (hk : m.pool.maxInstances = 0 ∨ customers.length ≤ m.pool.idle.length + m.pool.available) :
    m.Served (m.serve customers) customers.length := by
  induction customers using List.reverseRecOn with
  | nil => exact served_zero m
  | append_singleton customers x ih =>
    rw [List.length_append, List.length_singleton] at hk ⊢
    rw [serve_snoc]
    have hbefore := ih (fun y hy => hf y (List.mem_append_left _ hy)) (by omega)
    exact hbefore.next (hf x (by simp)) (by omega)

/-! ## The next caller -/

/-- It takes the object that has been idle longest. -/
theorem Served.reuses (h : m.Served m' k) (hf : m.isFree c = true) (hk : k < m.pool.idle.length) :
    (m'.run [.call c .get, .resume c]).callers c = some (.returned (.got m.pool.idle[k])) ∧
      (m'.run [.call c .get, .resume c]).pool.createCount = m.pool.createCount := by
  rw [ask_of_idle (h.free c hf) (h.idle_eq_cons hk)]
  refine ⟨put_self _ _ _, ?_⟩
  show m'.pool.createCount = _
  rw [h.created]
  omega

/-- It has an object made for it. -/
theorem Served.creates (h : m.Served m' k) (hf : m.isFree c = true) (hi : m.pool.idle.length ≤ k)
    (hk : m.pool.maxInstances = 0 ∨ k < m.pool.idle.length + m.pool.available) (obj : α) :
    (m'.run [.call c .get, .resume c]).callers c = some .creating ∧
      (m'.run (gets c obj)).callers c = some (.returned (.got obj)) := by
  obtain ⟨hidle, hroom⟩ := h.hasRoom hi hk
  rw [run_gets, ask_of_hasRoom (h.free c hf) hidle hroom, made_takeSlot]
  exact ⟨put_self _ _ _, put_self _ _ _⟩

theorem Served.deadline (h : m.Served m' k) : m'.deadline = m.deadline := by
  unfold Machine.deadline
  rw [h.timeout, h.clock]

/-- A caller that waits while nothing is to be had, and is roused: it gives up if its time is over. -/
theorem roused_of_atCeiling (h : m.callers c = some (.blocked d)) (ha : m.pool.AtCeiling) :
    (m.Due d → (m.run [.resume c, .resume c]).callers c =
        some (.returned (.exhausted m.pool.timeoutMillis))) ∧
      (¬ m.Due d → (m.run [.resume c, .resume c]).callers c = some (.blocked d)) := by
  have hs : m.step (.resume c) = m.put c (.looking d) := by
    simp only [step, resume, h]
  have hr : m.run [.resume c, .resume c] = (m.put c (.looking d)).look c d := by
    show (m.step (.resume c)).step (.resume c) = _
    rw [hs]
    simp only [step, resume, put_self]
  rw [hr]
  constructor
  · intro hd
    rw [look_of_due (m := m.put c _) ha hd, put_self]
    rfl
  · intro hd
    rw [look_of_not_due (m := m.put c _) ha hd, put_self]

/-- It waits, and gives up when its time is over. -/
theorem Served.blocks (h : m.Served m' k) (hf : m.isFree c = true) (hc : 0 < m.pool.maxInstances)
    (hk : k = m.pool.idle.length + m.pool.available) :
    let waits := m'.run [.call c .get, .resume c, .resume c]
    waits.callers c = some (.blocked m.deadline) ∧
      ∀ millis, ((waits.step (.tick millis)).run [.resume c, .resume c]).callers c =
        if 0 < m.pool.timeoutMillis ∧ m.pool.timeoutMillis ≤ millis then
          some (.returned (.exhausted m.pool.timeoutMillis))
        else some (.blocked m.deadline) := by
  intro waits
  have ha := h.atCeiling hc hk
  have hwaits : waits = m'.put c (.blocked m.deadline) := by
    have hearly : ¬ m'.Due m.deadline := fun hd => by
      have hdue := due_deadline.1 hd
      have hclock := h.clock
      omega
    show (m'.run [.call c .get, .resume c]).step (.resume c) = _
    rw [ask_of_atCeiling (h.free c hf) ha, h.deadline]
    simp only [step, resume, put_self]
    rw [look_of_not_due (m := m'.put c _) ha hearly]
    exact put_put m' c _ _
  rw [hwaits]
  refine ⟨put_self _ _ _, fun millis => ?_⟩
  have hblocked : ((m'.put c (.blocked m.deadline)).step (.tick millis)).callers c =
      some (.blocked m.deadline) := put_self _ _ _
  have hdue : ((m'.put c (.blocked m.deadline)).step (.tick millis)).Due m.deadline ↔
      0 < m.pool.timeoutMillis ∧ m.pool.timeoutMillis ≤ millis := by
    rw [due_deadline]
    show _ ∧ _ ≤ m'.clock + millis ↔ _
    rw [h.clock]
    omega
  obtain ⟨hexpires, hstays⟩ := roused_of_atCeiling hblocked ha
  rw [hdue] at hexpires hstays
  have htimeout : ((m'.put c (.blocked m.deadline)).step (.tick millis)).pool.timeoutMillis =
      m.pool.timeoutMillis := h.timeout
  rw [htimeout] at hexpires
  by_cases hd : 0 < m.pool.timeoutMillis ∧ m.pool.timeoutMillis ≤ millis
  · rw [if_pos hd]
    exact hexpires hd
  · rw [if_neg hd]
    exact hstays hd

/-- **A pool tells how many callers it serves at once.** In any state that can be reached, let callers whose
calls are over ask one after another, with a factory that makes what it is asked for.

* While objects are idle each takes one of them, and nothing is made.
* After that each has one made, as long as the pool says that one more is available, or has no cap.
* The next one waits. It gives up after the time of the pool, and without one not at all.
* In a pool without a cap nobody waits. -/
theorem available_exact (config : PoolConfig) (moves : List (Move α)) :
    let m : Machine α := run ⟨Pool.ofConfig config, .empty, 0, []⟩ moves
    let pooled := m.pool.idle.length
    let available := m.pool.available
    (∀ customers : List (CallerId × α), (∀ x ∈ customers, m.isFree x.1 = true) → ∀ c, m.isFree c = true →
      let k := customers.length
      let m' := m.serve customers
      let asked := m'.run [.call c .get, .resume c]
      (k < pooled → ∃ obj, m.pool.idle[k]? = some obj ∧ asked.callers c = some (.returned (.got obj)) ∧
        asked.pool.createCount = m.pool.createCount) ∧
      (pooled ≤ k → m.pool.maxInstances = 0 ∨ k < pooled + available → ∀ obj,
        let served := asked.step (.worked c (.made obj))
        asked.callers c = some .creating ∧ served.callers c = some (.returned (.got obj)) ∧
          served.pool.createCount = m.pool.createCount + (k + 1 - pooled)) ∧
      (0 < m.pool.maxInstances → k = pooled + available →
        let waits := asked.step (.resume c)
        waits.callers c = some (.blocked m.deadline) ∧
          ∀ millis, ((waits.step (.tick millis)).run [.resume c, .resume c]).callers c =
            if 0 < m.pool.timeoutMillis ∧ m.pool.timeoutMillis ≤ millis then
              some (.returned (.exhausted m.pool.timeoutMillis))
            else some (.blocked m.deadline))) ∧
      (m.pool.maxInstances = 0 → ∀ c d, m.callers c ≠ some (.blocked d)) := by
  intro m pooled available
  constructor
  · intro customers hfree c hf k m' asked
    refine ⟨fun hk => ?_, fun hi hk obj => ?_, fun hc hk => ?_⟩
    · have hs := serve_served m customers hfree (.inr (Nat.le_trans (Nat.le_of_lt hk) (Nat.le_add_right _ _)))
      exact ⟨m.pool.idle[k], List.getElem?_eq_getElem hk, hs.reuses hf hk⟩
    · have hs := serve_served m customers hfree (hk.imp_right Nat.le_of_lt)
      obtain ⟨hcreating, hgot⟩ := hs.creates hf hi hk obj
      exact ⟨hcreating, hgot, (hs.next hf hk).created⟩
    · have hs := serve_served m customers hfree (.inr (Nat.le_of_eq hk))
      exact hs.blocks hf hc hk
  · intro hz c d hb
    have hcap := (run_settled (settled_new _) moves c d hb).capped
    exact absurd hz (Nat.ne_of_gt hcap)

/-- Three objects live, one of them is idle, and the cap is set to 1. One more caller gets an object, and the next
one gives up after its 100 milliseconds. -/
theorem available_exact_lowered :
    let a : CallerId := ⟨0⟩
    let b : CallerId := ⟨1⟩
    let config : PoolConfig := ⟨3, 2, 100⟩
    let moves : List (Move Nat) := gets a 5 ++ gets a 6 ++ gets a 7 ++
      [.call b (.release 6), .call b (.setMaxSize 1)]
    let m : Machine Nat := run ⟨Pool.ofConfig config, .empty, 0, []⟩ moves
    let asked := m.run [.call a .get, .resume a]
    let waits := ((m.serve [(a, 8)]).run [.call b .get, .resume b]).step (.resume b)
    m.pool.instances = 3 ∧ m.pool.idle.length + m.pool.available = 1 ∧
      asked.callers a = some (.returned (.got 6)) ∧ asked.pool.createCount = 3 ∧
      waits.callers b = some (.blocked (some 100)) ∧
      ((waits.step (.tick 100)).run [.resume b, .resume b]).callers b =
        some (.returned (.exhausted 100)) := by
  intro a b config moves m asked waits
  have ha : m.isFree a = true := by decide +kernel
  have hb : m.isFree b = true := by decide +kernel
  have hfirst : m.pool.idle[0]? = some 6 := by decide +kernel
  have hpooled : 0 < m.pool.idle.length := by decide +kernel
  have hcap : 0 < m.pool.maxInstances := by decide +kernel
  have hsum : 1 = m.pool.idle.length + m.pool.available := by decide +kernel
  have hcreated : m.pool.createCount = 3 := by decide +kernel
  have hdeadline : m.deadline = some 100 := by decide +kernel
  have htimeout : m.pool.timeoutMillis = 100 := by decide +kernel
  have hinst : m.pool.instances = 3 := by decide +kernel
  obtain ⟨hall, -⟩ := available_exact config moves
  have hm : run ⟨Pool.ofConfig config, .empty, 0, []⟩ moves = m := rfl
  rw [hm] at hall
  -- what follows needs no more of the run than these facts
  clear_value m
  obtain ⟨hidle, -, -⟩ := hall [] (fun _ => nofun) a ha
  obtain ⟨-, -, hnext⟩ := hall [(a, 8)] (fun x hx => List.mem_singleton.1 hx ▸ ha) b hb
  obtain ⟨obj, hobj, hgot, hcount⟩ := hidle hpooled
  obtain rfl : obj = 6 := Option.some.inj (hobj.symm.trans hfirst)
  obtain ⟨hwaits, hlater⟩ := hnext hcap hsum
  have hend := hlater 100
  rw [htimeout] at hend
  exact ⟨hinst, hsum.symm, hgot, hcount.trans hcreated, hwaits.trans (by rw [hdeadline]), hend⟩

end Sluice.Pool.Machine
