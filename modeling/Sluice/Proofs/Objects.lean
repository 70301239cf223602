import Sluice.Proofs.Waiting

/-!
# The objects of a pool

The callers are outside: they may use the pool in any way, but give back only what they have been given
and have not given back yet. Who has what is therefore read off the moves, and not off the pool.

* `lentAfter`: who has which objects after a run. `HonestRun`: the runs of such callers. `FairRun`: those with a
  factory that never makes the same object twice.
* `Placed`: every object is out, idle, or destroyed, once. `Placed.take`, `Placed.create`,
  `Placed.keepIdle` and `Placed.destroy`: the ways from one place to another.
* `SameObjects`: the changes that concern no object.
-/

namespace Sluice.Pool

namespace Machine

variable {α : Type}

/-! ## Who has what -/

/-- The object that a move gives back to the pool. -/
def givenBack? (m : Machine α) : Move α → Option α
  | .call c (.release obj) | .call c (.discard obj) => if m.isFree c then some obj else none
  | _ => none

/-- The object that a move hands to a caller whose call has been under way. -/
def handedOut? (m : Machine α) (move : Move α) : Option (CallerId × α) :=
  match move with
  | .resume c | .worked c _ =>
    if m.isFree c then none
    else
      match (m.step move).callers c with
      | some (.returned (.got obj)) => some (c, obj)
      | _ => none
  | _ => none

/-- The object that the factory has made in a move. -/
def made? (m : Machine α) : Move α → Option α
  | .worked c (.made obj) =>
    match m.callers c with
    | some .creating => some obj
    | _ => none
  | _ => none

variable [DecidableEq α]

/-- Who has which objects after a move. -/
def lent (m : Machine α) (loans : List (CallerId × α)) (move : Move α) : List (CallerId × α) :=
  match m.givenBack? move with
  | some obj => loans.eraseP fun x => x.2 = obj
  | none => (m.handedOut? move).toList ++ loans

/-- Who has which objects after a run. -/
def lentAfter (m : Machine α) (loans : List (CallerId × α)) : List (Move α) → List (CallerId × α)
  | [] => loans
  | move :: moves => (m.step move).lentAfter (m.lent loans move) moves

/-- What is given back is out, and what the factory makes it has never made before. -/
structure Fair (m : Machine α) (loans : List (CallerId × α)) (move : Move α) : Prop where
  out : ∀ obj ∈ m.givenBack? move, obj ∈ loans.map Prod.snd
  fresh : ∀ obj ∈ m.made? move, .created obj ∉ m.journal

instance (m : Machine α) (loans : List (CallerId × α)) (move : Move α) : Decidable (m.Fair loans move) :=
  decidable_of_iff ((∀ obj ∈ m.givenBack? move, obj ∈ loans.map Prod.snd) ∧
    ∀ obj ∈ m.made? move, .created obj ∉ m.journal) ⟨fun h => ⟨h.1, h.2⟩, fun h => ⟨h.out, h.fresh⟩⟩

/-- Every move is fair when it is made. -/
def FairRun (m : Machine α) (loans : List (CallerId × α)) : List (Move α) → Prop
  | [] => True
  | move :: moves => m.Fair loans move ∧ (m.step move).FairRun (m.lent loans move) moves

instance decidableFairRun (m : Machine α) (loans : List (CallerId × α)) :
    (moves : List (Move α)) → Decidable (m.FairRun loans moves)
  | [] => .isTrue trivial
  | move :: moves =>
    have := decidableFairRun (m.step move) (m.lent loans move) moves
    inferInstanceAs (Decidable (m.Fair loans move ∧ (m.step move).FairRun (m.lent loans move) moves))

/-- What is given back is out. -/
def Honest (m : Machine α) (loans : List (CallerId × α)) (move : Move α) : Prop :=
  ∀ obj ∈ m.givenBack? move, obj ∈ loans.map Prod.snd

instance (m : Machine α) (loans : List (CallerId × α)) (move : Move α) : Decidable (m.Honest loans move) :=
  inferInstanceAs (Decidable (∀ obj ∈ m.givenBack? move, obj ∈ loans.map Prod.snd))

/-- Callers give back only what they have been given and not given back yet, whatever the factory makes. -/
def HonestRun (m : Machine α) (loans : List (CallerId × α)) : List (Move α) → Prop
  | [] => True
  | move :: moves => m.Honest loans move ∧ (m.step move).HonestRun (m.lent loans move) moves

instance decidableHonestRun (m : Machine α) (loans : List (CallerId × α)) :
    (moves : List (Move α)) → Decidable (m.HonestRun loans moves)
  | [] => .isTrue trivial
  | move :: moves =>
    have := decidableHonestRun (m.step move) (m.lent loans move) moves
    inferInstanceAs (Decidable (m.Honest loans move ∧ (m.step move).HonestRun (m.lent loans move) moves))

variable {m m' : Machine α} {loans : List (CallerId × α)} {move : Move α} {c c' : CallerId}
  {p : Phase α} {obj : α} {out : List α} {n : Int}

theorem lent_of_givenBack (h : m.givenBack? move = some obj) :
    (m.lent loans move).map Prod.snd = (loans.map Prod.snd).erase obj := by
  unfold lent
  rw [h, List.erase_eq_eraseP', List.eraseP_map]
  rfl

theorem lent_of_handedOut (h : m.givenBack? move = none) (hh : m.handedOut? move = some (c, obj)) :
    m.lent loans move = (c, obj) :: loans := by
  unfold lent
  rw [h, hh]
  rfl

theorem lent_eq_self (h : m.givenBack? move = none) (hh : m.handedOut? move = none) :
    m.lent loans move = loans := by
  unfold lent
  rw [h, hh]
  rfl

omit [DecidableEq α] in
/-- A caller whose call is under way gets what it is left with. -/
theorem handedOut?_eq (hf : m.isFree c = false) (hm : move = .resume c ∨ ∃ w, move = .worked c w) :
    m.handedOut? move =
      match (m.step move).callers c with
      | some (.returned (.got obj)) => some (c, obj)
      | _ => none := by
  rcases hm with rfl | ⟨w, rfl⟩ <;> simp only [handedOut?, hf, Bool.false_eq_true, if_false]

omit [DecidableEq α] in
theorem isFree_of_phase (h : m.callers c = some p) (hp : ∀ r, p ≠ .returned r) : m.isFree c = false := by
  unfold isFree
  rw [h]
  cases p with
  | returned r => exact absurd rfl (hp r)
  | _ => rfl

omit [DecidableEq α] in
/-- A move after which its caller has no object hands nothing out. -/
theorem handedOut?_of_phase (hm : move = .resume c ∨ ∃ w, move = .worked c w) (hs : m.step move = m'.put c p)
    (hp : ∀ obj, p ≠ .returned (.got obj)) : m.handedOut? move = none := by
  by_cases hf : m.isFree c = true
  · rcases hm with rfl | ⟨w, rfl⟩ <;> exact if_pos hf
  · rw [handedOut?_eq (by simpa using hf) hm, hs, put_self]
    split
    · rename_i obj he
      exact absurd (Option.some.inj he) (hp obj)
    · rfl

omit [DecidableEq α] in
/-- A move that is out of place hands nothing out. -/
theorem handedOut?_of_step_eq_self (hm : move = .resume c ∨ ∃ w, move = .worked c w) (hs : m.step move = m) :
    m.handedOut? move = none := by
  by_cases hf : m.isFree c = true
  · rcases hm with rfl | ⟨w, rfl⟩ <;> exact if_pos hf
  · rw [handedOut?_eq (by simpa using hf) hm, hs]
    split
    · rename_i obj he
      simp [isFree, he] at hf
    · rfl

/-- A move after which its caller is left without an object changes nothing for the others. -/
theorem lent_of_phase (hm : move = .resume c ∨ ∃ w, move = .worked c w) (hs : m.step move = m'.put c p)
    (hp : ∀ obj, p ≠ .returned (.got obj)) : m.lent loans move = loans := by
  refine lent_eq_self ?_ (handedOut?_of_phase hm hs hp)
  rcases hm with rfl | ⟨w, rfl⟩ <;> rfl

theorem lent_of_got (hf : m.isFree c = false) (hm : move = .resume c ∨ ∃ w, move = .worked c w)
    (hs : m.step move = m'.put c (.returned (.got obj))) : m.lent loans move = (c, obj) :: loans := by
  refine lent_of_handedOut ?_ ?_
  · rcases hm with rfl | ⟨w, rfl⟩ <;> rfl
  · rw [handedOut?_eq hf hm, hs, put_self]

theorem lent_of_step_eq_self (hm : move = .resume c ∨ ∃ w, move = .worked c w) (hs : m.step move = m) :
    m.lent loans move = loans := by
  refine lent_eq_self ?_ (handedOut?_of_step_eq_self hm hs)
  rcases hm with rfl | ⟨w, rfl⟩ <;> rfl

/-! ## Objects -/

/-- How often an object is out, or idle, or has been passed to the factory to be destroyed. -/
def places (m : Machine α) (out : List α) (obj : α) : Nat :=
  out.count obj + m.pool.idle.count obj + m.journal.count (.destroyed obj)

/-- Every object that has been made is in one place, once, and the counters agree. -/
structure Placed (m : Machine α) (out : List α) : Prop where
  place : ∀ obj, m.places out obj = if .created obj ∈ m.journal then 1 else 0
  made : m.pool.createCount = m.pool.removeCount + out.length + m.pool.idle.length
  room : m.pool.idle.length ≤ m.pool.poolSize

/-- No object has been made, moved or destroyed. -/
structure SameObjects (m m' : Machine α) : Prop where
  idle : m'.pool.idle = m.pool.idle
  createCount : m'.pool.createCount = m.pool.createCount
  removeCount : m'.pool.removeCount = m.pool.removeCount
  poolSize : m'.pool.poolSize = m.pool.poolSize
  created : ∀ obj, .created obj ∈ m'.journal ↔ .created obj ∈ m.journal
  destroyed : ∀ obj, m'.journal.count (.destroyed obj) = m.journal.count (.destroyed obj)

theorem sameObjects_put (m : Machine α) (c : CallerId) (p : Phase α) : SameObjects m (m.put c p) :=
  ⟨rfl, rfl, rfl, rfl, fun _ => .rfl, fun _ => rfl⟩

theorem sameObjects_takeSlot (m : Machine α) (c : CallerId) : SameObjects m (m.takeSlot c) :=
  ⟨rfl, rfl, rfl, rfl, fun _ => .rfl, fun _ => rfl⟩

theorem sameObjects_createFailed (m : Machine α) (f : Failure) :
    SameObjects m (m.note (.createFailed f)) :=
  ⟨rfl, rfl, rfl, rfl, fun obj => by simp [note], fun obj => by simp [note]⟩

theorem sameObjects_freeSlot (m : Machine α) : SameObjects m m.freeSlot := by
  unfold freeSlot
  simp only
  split
  · exact ⟨rfl, rfl, rfl, rfl, fun obj => by simp [note], fun obj => by simp [note]⟩
  · split <;> exact ⟨rfl, rfl, rfl, rfl, fun _ => .rfl, fun _ => rfl⟩

theorem sameObjects_setMaxSize (m : Machine α) (c : CallerId) (n : Nat) :
    SameObjects m (m.setMaxSize c n) := by
  unfold setMaxSize
  simp only
  split <;> exact ⟨rfl, rfl, rfl, rfl, fun _ => .rfl, fun _ => rfl⟩

theorem Placed.keep (h : m.Placed out) (hs : SameObjects m m') : m'.Placed out := by
  refine ⟨fun obj => ?_, ?_, ?_⟩
  · have hp := h.place obj
    unfold places at hp ⊢
    rw [hs.idle, hs.destroyed obj, hp]
    simp only [hs.created obj]
  · rw [hs.createCount, hs.removeCount, hs.idle]
    exact h.made
  · rw [hs.idle, hs.poolSize]
    exact h.room

theorem placed_new (config : PoolConfig) : Placed (⟨Pool.ofConfig config, .empty, 0, []⟩ : Machine α) [] :=
  ⟨fun _ => rfl, rfl, Nat.zero_le _⟩

/-- What is out has been made, and is nowhere else. -/
theorem Placed.of_mem_out (h : m.Placed out) (ho : obj ∈ out) :
    .created obj ∈ m.journal ∧ out.count obj = 1 ∧ obj ∉ m.pool.idle ∧ .destroyed obj ∉ m.journal := by
  have hp := h.place obj
  unfold places at hp
  have hpos := List.count_pos_iff.2 ho
  by_cases hc : .created obj ∈ m.journal
  · rw [if_pos hc] at hp
    exact ⟨hc, by omega, List.count_eq_zero.1 (by omega), List.count_eq_zero.1 (by omega)⟩
  · rw [if_neg hc] at hp
    omega

/-- An idle object is taken out. -/
theorem Placed.take {o : Occurrence α} {rest : List α} (h : m.Placed out)
    (hi : m.pool.idle = obj :: rest) (hc : ∀ x, o ≠ .created x) (hd : ∀ x, o ≠ .destroyed x) :
    Placed ({ m with pool := { m.pool with idle := rest } }.note o) (obj :: out) := by
  refine ⟨fun x => ?_, ?_, ?_⟩
  · -- the idle object is counted among those that are out
    have hp := h.place x
    unfold places at hp
    rw [hi, List.count_cons] at hp
    simp only [places, note, List.mem_cons, (hc x).symm, false_or, List.count_cons_of_ne (hd x)]
    rw [List.count_cons]
    omega
  · have hm := h.made
    rw [hi, List.length_cons] at hm
    simp only [note, List.length_cons]
    omega
  · have hr := h.room
    rw [hi, List.length_cons] at hr
    exact Nat.le_of_succ_le hr

/-- An object that is out is passed to the factory to be destroyed. -/
theorem Placed.destroy (h : m.Placed out) (ho : obj ∈ out) (c : CallerId) (errand : Errand) :
    (m.destroy c obj errand).Placed (out.erase obj) := by
  refine Placed.keep ?_ (sameObjects_put _ c _)
  refine ⟨fun x => ?_, ?_, h.room⟩
  · have hp := h.place x
    unfold places at hp
    simp only [places, note, List.mem_cons, reduceCtorEq, false_or, ← hp]
    by_cases hx : x = obj
    · subst hx
      have hpos := List.count_pos_iff.2 ho
      rw [List.count_erase_self, List.count_cons_self]
      omega
    · rw [List.count_erase_of_ne hx, List.count_cons_of_ne (fun e => hx (by cases e; rfl))]
  · have hm := h.made
    have hlen := List.length_erase_of_mem ho
    have hpos := List.length_pos_of_mem ho
    simp only [note]
    omega

/-- The factory has made an object. -/
theorem Placed.create (h : m.Placed out) (hf : .created obj ∉ m.journal) :
    Placed ({ m with pool := { m.pool with createCount := m.pool.createCount + 1 } }.note
      (.created obj)) (obj :: out) := by
  refine ⟨fun x => ?_, ?_, h.room⟩
  · have hp := h.place x
    unfold places at hp
    have hd : (Occurrence.created obj :: m.journal).count (.destroyed x) = m.journal.count (.destroyed x) :=
      List.count_cons_of_ne (by simp)
    simp only [places, note, List.mem_cons, Occurrence.created.injEq, hd]
    by_cases hx : x = obj
    · subst hx
      rw [if_neg hf] at hp
      rw [List.count_cons_self, if_pos (.inl rfl)]
      omega
    · rw [List.count_cons_of_ne (Ne.symm hx), hp]
      simp only [hx, false_or]
  · have hm := h.made
    simp only [note, List.length_cons]
    omega

/-- An object comes back and is kept. -/
theorem Placed.keepIdle (h : m.Placed out) (ho : obj ∈ out)
    (hr : m.pool.idle.length < m.pool.poolSize) :
    Placed ({ m with pool := { m.pool with idle := m.pool.idle ++ [obj] } }.note (.kept obj))
      (out.erase obj) := by
  refine ⟨fun x => ?_, ?_, ?_⟩
  · have hp := h.place x
    unfold places at hp
    have hd : (Occurrence.kept obj :: m.journal).count (.destroyed x) = m.journal.count (.destroyed x) :=
      List.count_cons_of_ne (by simp)
    simp only [places, note, List.mem_cons, reduceCtorEq, false_or, ← hp, hd, List.count_append]
    by_cases hx : x = obj
    · subst hx
      have hpos := List.count_pos_iff.2 ho
      rw [List.count_erase_self, List.count_singleton_self]
      omega
    · rw [List.count_erase_of_ne hx, List.count_singleton]
      simp [Ne.symm hx]
  · have hm := h.made
    have hlen := List.length_erase_of_mem ho
    have hpos := List.length_pos_of_mem ho
    simp only [note, List.length_append, List.length_singleton]
    omega
  · simp only [note, List.length_append, List.length_singleton]
    omega

theorem Placed.reuse {rest : List α} (h : m.Placed out) (hi : m.pool.idle = obj :: rest)
    (c : CallerId) : (m.reuse c obj rest).Placed (obj :: out) :=
  (h.take (o := .reused obj) hi (fun _ => nofun) fun _ => nofun).keep (sameObjects_put _ c _)

/-- The next idle object is taken out and destroyed at once. -/
theorem Placed.clear (h : m.Placed out) (c : CallerId) : (m.clear c).Placed out := by
  unfold Machine.clear
  split
  · exact h.keep (sameObjects_put m c _)
  · rename_i obj rest hi
    have ht : Placed ({ m with pool := { m.pool with idle := rest } }.note (.cleared obj)) (obj :: out) :=
      h.take hi (fun _ => nofun) fun _ => nofun
    have hd := ht.destroy List.mem_cons_self c .stop
    rwa [List.erase_cons_head] at hd

theorem Placed.release (h : m.Placed out) (ho : obj ∈ out) (c : CallerId) :
    (m.release c obj).Placed (out.erase obj) := by
  unfold Machine.release
  split
  · rename_i hr
    have hk := h.keepIdle ho hr
    simp only
    split <;> exact hk.keep ⟨rfl, rfl, rfl, rfl, fun _ => .rfl, fun _ => rfl⟩
  · exact h.destroy ho c .release

omit [DecidableEq α]

/-! ## Settings -/

theorem freeSlot_poolSize (m : Machine α) : m.freeSlot.pool.poolSize = m.pool.poolSize := by
  unfold freeSlot
  simp only
  split
  · rfl
  · split <;> rfl

theorem clear_poolSize (m : Machine α) (c : CallerId) : (m.clear c).pool.poolSize = m.pool.poolSize := by
  unfold Machine.clear
  split <;> rfl

/-- The cap on idle objects stays what it is. -/
theorem step_poolSize (m : Machine α) (move : Move α) :
    (m.step move).pool.poolSize = m.pool.poolSize := by
  cases move with
  | call c k =>
    simp only [Machine.step]
    split
    · cases k with
      | get => rfl
      | release obj =>
        simp only [Machine.call, Machine.release]
        split
        · split <;> rfl
        · rfl
      | discard obj => exact freeSlot_poolSize m
      | stop => exact clear_poolSize m c
      | setMaxSize n =>
        simp only [Machine.call, Machine.setMaxSize]
        split <;> rfl
    · rfl
  | resume c =>
    simp only [Machine.step, Machine.resume, Machine.attempt, Machine.look]
    repeat' split
    all_goals rfl
  | worked c w =>
    simp only [Machine.step, Machine.worked]
    split
    all_goals
      first
      | rfl
      | exact freeSlot_poolSize _
      | exact (clear_poolSize _ c).trans (freeSlot_poolSize m)
  | tick millis => rfl

theorem run_poolSize (m : Machine α) (moves : List (Move α)) :
    (m.run moves).pool.poolSize = m.pool.poolSize := by
  induction moves generalizing m with
  | nil => rfl
  | cons move moves ih => exact (ih (m.step move)).trans (step_poolSize m move)

end Machine

end Sluice.Pool
