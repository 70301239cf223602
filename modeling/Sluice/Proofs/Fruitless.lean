import Sluice.Proofs.Conservation
import Sluice.Proofs.Patience

/-!
# Gets that yield no object

A caller that asks for an object makes one attempt after another: it takes an idle object, or a slot for a new one,
or waits and begins anew. What its last attempt took, it gives back if it ends without an object.

* `Machine.Gets`: a caller asks for an object, has none yet, and has not given up.
* `Machine.Called`, `Machine.Attempted`: when it asked, and when its last attempt began. **Every caller that asks
  has such a past** (`Past`, `run_past`).
* `Machine.Keeps`: some of the moves of a run leave the pool as it is. Those of a caller in its attempt do
  (`Attempted.keeps`).
* `fruitless_exact`: a get that ends without an object has left the pool as its last attempt found it, but for what
  others have done since.
-/

namespace Sluice.Pool

variable {α : Type}

/-- Whether a caller in this phase asks for an object. -/
def Phase.isGet : Phase α → Bool
  | .trying _ | .looking _ | .blocked _ | .creating => true
  | _ => false

/-- Whether a caller in this phase is about to make an attempt. -/
def Phase.isTrying : Phase α → Bool
  | .trying _ => true
  | _ => false

namespace Machine

variable {m m' : Machine α} {move : Move α} {moves more : List (Move α)} {c : CallerId} {p : Phase α}
  {d : Option Nat} {P Q : Machine α → Prop}

/-! ## What holds for a while -/

/-- Something holds here and after each of some moves. -/
def Since (m : Machine α) (P : Machine α → Prop) (more : List (Move α)) : Prop :=
  ∀ pre, pre <+: more → P (m.run pre)

theorem since_nil (h : P m) : m.Since P [] := fun pre hp => by
  rw [List.prefix_nil.1 hp]
  exact h

theorem Since.snoc (h : m.Since P more) (hp : P (m.run (more ++ [move]))) : m.Since P (more ++ [move]) := by
  intro pre hpre
  rcases List.prefix_concat_iff.1 hpre with rfl | hle
  · exact hp
  · exact h pre hle

theorem Since.imp (h : m.Since P more) (hpq : ∀ k, P k → Q k) : m.Since Q more :=
  fun pre hpre => hpq _ (h pre hpre)

theorem Since.last (h : m.Since P more) : P (m.run more) := h more List.prefix_rfl

theorem since_cons : m.Since P (move :: more) ↔ P m ∧ (m.step move).Since P more := by
  constructor
  · intro h
    exact ⟨h [] List.nil_prefix, fun pre hpre => h (move :: pre) (List.cons_prefix_cons.2 ⟨rfl, hpre⟩)⟩
  · rintro ⟨hp, h⟩ pre hpre
    rcases List.prefix_cons_iff.1 hpre with rfl | ⟨q, rfl, hq⟩
    · exact hp
    · exact h q hq

theorem Since.append (h : m.Since P moves) (h' : (m.run moves).Since P more) : m.Since P (moves ++ more) := by
  induction moves generalizing m with
  | nil => exact h'
  | cons move moves ih =>
    obtain ⟨hp, hs⟩ := since_cons.1 h
    exact since_cons.2 ⟨hp, ih hs h'⟩

theorem run_append (m : Machine α) (moves more : List (Move α)) :
    m.run (moves ++ more) = (m.run moves).run more := List.foldl_append

/-! ## Where a caller comes from -/

/-- A caller asks for an object. -/
def Gets (m : Machine α) (c : CallerId) : Prop := (m.callers c).any Phase.isGet = true

theorem gets_of_phase (h : m.callers c = some p) (hp : p.isGet = true) : m.Gets c := by
  unfold Gets
  rw [h]
  exact hp

theorem Gets.isFree (h : m.Gets c) : m.isFree c = false := by
  obtain ⟨p, hp, hget⟩ := (Option.any_eq_true _ _).1 h
  cases p with
  | returned r => cases hget
  | _ => exact isFree_of_phase hp (by simp)

theorem Awaits.gets (h : m.Awaits c d) : m.Gets c := by
  rcases h with h | h
  · exact gets_of_phase h rfl
  · exact gets_of_phase h rfl

/-- A call that is started is one for an object, or its caller does not ask for one. -/
theorem call_cases (m : Machine α) (c : CallerId) (k : Call α) :
    k = .get ∨ ∃ p, (m.call c k).callers c = some p ∧ p.isGet = false := by
  cases k with
  | get => exact .inl rfl
  | release obj =>
    refine .inr ?_
    simp only [call, release]
    split
    · exact ⟨_, put_self _ _ _, rfl⟩
    · exact ⟨_, put_self _ _ _, rfl⟩
  | discard obj => exact .inr ⟨_, put_self _ _ _, rfl⟩
  | stop =>
    refine .inr ?_
    simp only [call, clear]
    split
    · exact ⟨_, put_self _ _ _, rfl⟩
    · exact ⟨_, put_self _ _ _, rfl⟩
  | setMaxSize n => exact .inr ⟨_, put_self _ _ _, rfl⟩

/-- When the factory has been at work, its caller does not ask for an object, or nothing has happened. -/
theorem worked_cases (m : Machine α) (c : CallerId) (w : Work α) :
    m.worked c w = m ∨ ∃ p, (m.worked c w).callers c = some p ∧ p.isGet = false := by
  unfold worked
  split
  · exact .inr ⟨_, put_self _ _ _, rfl⟩
  · exact .inr ⟨_, put_self _ _ _, rfl⟩
  · exact .inr ⟨_, put_self _ _ _, rfl⟩
  · exact .inr ⟨_, put_self _ _ _, rfl⟩
  · exact .inr ⟨_, put_self _ _ _, rfl⟩
  · refine .inr ?_
    unfold clear
    split
    · exact ⟨_, put_self _ _ _, rfl⟩
    · exact ⟨_, put_self _ _ _, rfl⟩
  · exact .inr ⟨_, put_self _ _ _, rfl⟩
  · exact .inr ⟨_, put_self _ _ _, rfl⟩
  · exact .inl rfl

/-- A caller that asks has just begun to ask, or has gone on, or is where it was, or has been woken. -/
theorem step_gets (h : (m.step move).callers c = some p) (hp : p.isGet = true) :
    (move = .call c .get ∧ m.isFree c = true ∧ p = .trying m.deadline) ∨
      (move = .resume c ∧ m.Gets c) ∨
      m.callers c = some p ∨ ∃ d, m.callers c = some (.blocked d) ∧ p = .looking d := by
  by_cases hm : move.caller? = some c
  swap
  · refine .inr (.inr ?_)
    rcases step_stays m hm with hs | hs
    · exact .inl (hs.symm.trans h)
    · obtain ⟨p', hp', hw⟩ := Option.map_eq_some_iff.1 (hs.symm.trans h)
      cases p' with
      | blocked d => exact .inr ⟨d, hp', hw.symm⟩
      | _ => exact .inl (hp'.trans (congrArg some hw))
  have hself (hs : m.step move = m) :
      m.callers c = some p ∨ ∃ d, m.callers c = some (.blocked d) ∧ p = .looking d := .inl (hs ▸ h)
  cases move with
  | call c' k =>
    obtain rfl : c' = c := Option.some.inj hm
    by_cases hf : m.isFree c' = true
    · have hs : m.step (.call c' k) = m.call c' k := if_pos hf
      rw [hs] at h
      rcases call_cases m c' k with rfl | ⟨q, hq, hn⟩
      · rw [call, put_self] at h
        exact .inl ⟨rfl, hf, (Option.some.inj h).symm⟩
      · obtain rfl : q = p := Option.some.inj (hq.symm.trans h)
        exact absurd (hp.symm.trans hn) (by decide)
    · exact .inr (.inr (hself (if_neg hf)))
  | resume c' =>
    obtain rfl : c' = c := Option.some.inj hm
    by_cases hg : m.Gets c'
    · exact .inr (.inl ⟨rfl, hg⟩)
    · -- one that does not ask does not go on
      refine .inr (.inr (hself ?_))
      simp only [step, resume]
      split
      · rename_i hc
        exact absurd (gets_of_phase hc rfl) hg
      · rename_i hc
        exact absurd (gets_of_phase hc rfl) hg
      · rename_i hc
        exact absurd (gets_of_phase hc rfl) hg
      · rfl
  | worked c' w =>
    obtain rfl : c' = c := Option.some.inj hm
    rcases worked_cases m c' w with hs | ⟨q, hq, hn⟩
    · exact .inr (.inr (hself hs))
    · obtain rfl : q = p := Option.some.inj (hq.symm.trans h)
      exact absurd (hp.symm.trans hn) (by decide)
  | tick millis => cases hm

/-- What a caller that goes on comes to, if it still asks. -/
theorem step_resume_gets (h : (m.step (.resume c)).callers c = some p) (hp : p.isGet = true) (hg : m.Gets c) :
    (∃ d, m.callers c = some (.trying d) ∧ (p = .looking d ∨ p = .creating)) ∨
      (∃ d, m.callers c = some (.looking d) ∧ (p = .trying d ∨ p = .blocked d)) ∨
      (∃ d, m.callers c = some (.blocked d) ∧ p = .looking d) ∨
      m.callers c = some .creating ∧ p = .creating := by
  simp only [step, resume] at h
  cases hc : m.callers c with
  | none =>
    unfold Gets at hg
    rw [hc] at hg
    cases hg
  | some q =>
    rw [hc] at h
    cases q with
    | trying d =>
      refine .inl ⟨d, rfl, ?_⟩
      simp only [attempt] at h
      split at h
      · rw [reuse, put_self] at h
        obtain rfl := Option.some.inj h
        cases hp
      · split at h
        · rw [takeSlot, put_self] at h
          exact .inr (Option.some.inj h).symm
        · rw [put_self] at h
          exact .inl (Option.some.inj h).symm
    | looking d =>
      refine .inr (.inl ⟨d, rfl, ?_⟩)
      simp only [look] at h
      split at h
      · rw [reuse, put_self] at h
        obtain rfl := Option.some.inj h
        cases hp
      · split at h
        · rw [put_self] at h
          exact .inl (Option.some.inj h).symm
        · split at h
          · rw [put_self] at h
            exact .inr (Option.some.inj h).symm
          · split at h
            · rw [put_self] at h
              obtain rfl := Option.some.inj h
              cases hp
            · rw [put_self] at h
              exact .inr (Option.some.inj h).symm
    | blocked d =>
      rw [put_self] at h
      exact .inr (.inr (.inl ⟨d, rfl, (Option.some.inj h).symm⟩))
    | creating =>
      rw [hc] at h
      exact .inr (.inr (.inr ⟨rfl, (Option.some.inj h).symm⟩))
    | destroying obj errand =>
      rw [hc] at h
      obtain rfl := Option.some.inj h
      cases hp
    | returned r =>
      rw [hc] at h
      obtain rfl := Option.some.inj h
      cases hp

/-- **A caller that is about to make an attempt** was so before, or has just asked, or begins anew. -/
theorem step_trying (h : (m.step move).callers c = some (.trying d)) :
    m.callers c = some (.trying d) ∨ (move = .call c .get ∧ m.isFree c = true ∧ d = m.deadline) ∨
      (move = .resume c ∧ m.callers c = some (.looking d)) := by
  rcases step_gets h rfl with ⟨hm, hf, hd⟩ | ⟨rfl, hg⟩ | hp | ⟨d', -, hn⟩
  · exact .inr (.inl ⟨hm, hf, Phase.trying.inj hd⟩)
  · rcases step_resume_gets h rfl hg with ⟨d', -, hn | hn⟩ | ⟨d', hl, hp | hn⟩ | ⟨d', -, hn⟩ | ⟨-, hn⟩
    · cases hn
    · cases hn
    · obtain rfl := Phase.trying.inj hp
      exact .inr (.inr ⟨rfl, hl⟩)
    · cases hn
    · cases hn
    · cases hn
  · exact .inl hp
  · cases hn

/-- **A caller that waits** has waited before, or has just made an attempt. -/
theorem step_awaits_cases (h : (m.step move).Awaits c d) :
    m.Awaits c d ∨ (move = .resume c ∧ m.callers c = some (.trying d)) := by
  rcases h with h | h
  · rcases step_gets h rfl with ⟨-, -, hn⟩ | ⟨rfl, hg⟩ | hp | ⟨d', -, hn⟩
    · cases hn
    · rcases step_resume_gets h rfl hg with ⟨d', -, hn | hn⟩ | ⟨d', hl, hn | hp⟩ | ⟨d', -, hn⟩ | ⟨-, hn⟩
      · cases hn
      · cases hn
      · cases hn
      · obtain rfl := Phase.blocked.inj hp
        exact .inl (.inr hl)
      · cases hn
      · cases hn
    · exact .inl (.inl hp)
    · cases hn
  · rcases step_gets h rfl with ⟨-, -, hn⟩ | ⟨rfl, hg⟩ | hp | ⟨d', hb, hp⟩
    · cases hn
    · rcases step_resume_gets h rfl hg with ⟨d', ht, hp | hn⟩ | ⟨d', -, hn | hn⟩ | ⟨d', hb, hp⟩ | ⟨-, hn⟩
      · obtain rfl := Phase.looking.inj hp
        exact .inr ⟨rfl, ht⟩
      · cases hn
      · cases hn
      · cases hn
      · obtain rfl := Phase.looking.inj hp
        exact .inl (.inl hb)
      · cases hn
    · exact .inl (.inr hp)
    · obtain rfl := Phase.looking.inj hp
      exact .inl (.inl hb)

/-- **A caller for which the factory makes an object** was so before, or has just made an attempt. -/
theorem step_creating (h : (m.step move).callers c = some .creating) :
    m.callers c = some .creating ∨ ∃ d, move = .resume c ∧ m.callers c = some (.trying d) := by
  rcases step_gets h rfl with ⟨-, -, hn⟩ | ⟨rfl, hg⟩ | hp | ⟨d', -, hn⟩
  · cases hn
  · rcases step_resume_gets h rfl hg with ⟨d', ht, hn | -⟩ | ⟨d', -, hn | hn⟩ | ⟨d', -, hn⟩ | ⟨hp, -⟩
    · cases hn
    · exact .inr ⟨d', rfl, ht⟩
    · cases hn
    · cases hn
    · cases hn
    · exact .inl hp
  · exact .inl hp
  · cases hn

/-! ## The past of a caller -/

/-- A caller asked in the course of these moves, has been at it since, and gives up at this deadline. -/
def Called (m : Machine α) (moves : List (Move α)) (c : CallerId) (d : Option Nat) : Prop :=
  ∃ start more, moves = start ++ .call c .get :: more ∧ (m.run start).isFree c = true ∧
    d = (m.run start).deadline ∧ ((m.run start).step (.call c .get)).Since (Gets · c) more

/-- A caller began an attempt in the course of these moves, and since then something has held. -/
def Attempted (m : Machine α) (moves : List (Move α)) (c : CallerId) (d : Option Nat)
    (P : Machine α → Prop) : Prop :=
  ∃ pre rest, moves = pre ++ .resume c :: rest ∧ m.Called pre c d ∧ (m.run pre).callers c = some (.trying d) ∧
    ((m.run pre).step (.resume c)).Since P rest

theorem Called.snoc (h : m.Called moves c d) (hg : (m.run (moves ++ [move])).Gets c) :
    m.Called (moves ++ [move]) c d := by
  obtain ⟨start, more, rfl, hf, hd, hs⟩ := h
  refine ⟨start, more ++ [move], by simp, hf, hd, hs.snoc ?_⟩
  rw [List.append_assoc, run_append] at hg
  exact hg

theorem Attempted.snoc (h : m.Attempted moves c d P) (hp : P (m.run (moves ++ [move]))) :
    m.Attempted (moves ++ [move]) c d P := by
  obtain ⟨pre, rest, rfl, hc, ht, hs⟩ := h
  refine ⟨pre, rest ++ [move], by simp, hc, ht, hs.snoc ?_⟩
  rw [List.append_assoc, run_append] at hp
  exact hp

/-- The last call is that of the last attempt. -/
theorem Attempted.called (h : m.Attempted moves c d (Awaits · c d)) : m.Called moves c d := by
  obtain ⟨pre, rest, rfl, ⟨start, more, rfl, hf, hd, hs⟩, ht, hrest⟩ := h
  refine ⟨start, more ++ .resume c :: rest, by simp, hf, hd, hs.append (since_cons.2 ⟨hs.last, ?_⟩)⟩
  have hrun : m.run (start ++ .call c .get :: more) = ((m.run start).step (.call c .get)).run more :=
    run_append m start _
  rw [hrun] at hrest
  exact hrest.imp fun _ ha => ha.gets

/-- **Every caller that asks has a past**: a call, and an attempt that it is still in, unless the next one is
about to begin. -/
structure Past (m : Machine α) (moves : List (Move α)) (c : CallerId) : Prop where
  trying : ∀ d, (m.run moves).callers c = some (.trying d) → m.Called moves c d
  waiting : ∀ d, (m.run moves).Awaits c d → m.Attempted moves c d (Awaits · c d)
  creating : (m.run moves).callers c = some .creating →
    ∃ d, m.Attempted moves c d (·.callers c = some .creating)

theorem Past.snoc (h : m.Past moves c) (move : Move α) : m.Past (moves ++ [move]) c := by
  have hs : m.run (moves ++ [move]) = (m.run moves).step move := run_snoc m moves move
  refine ⟨fun d hd => ?_, fun d hd => ?_, fun hd => ?_⟩
  · have hg : (m.run (moves ++ [move])).Gets c := gets_of_phase hd rfl
    rcases step_trying (hs ▸ hd) with ht | ⟨rfl, hf, rfl⟩ | ⟨rfl, hl⟩
    · exact (h.trying d ht).snoc hg
    · refine ⟨moves, [], rfl, hf, rfl, since_nil ?_⟩
      rw [hs] at hg
      exact hg
    · exact (h.waiting d (.inr hl)).called.snoc hg
  · rcases step_awaits_cases (hs ▸ hd) with ha | ⟨rfl, ht⟩
    · exact (h.waiting d ha).snoc hd
    · refine ⟨moves, [], rfl, h.trying d ht, ht, since_nil ?_⟩
      rw [hs] at hd
      exact hd
  · rcases step_creating (hs ▸ hd) with hn | ⟨d, rfl, ht⟩
    · obtain ⟨d, ha⟩ := h.creating hn
      exact ⟨d, ha.snoc hd⟩
    · refine ⟨d, moves, [], rfl, h.trying d ht, ht, since_nil ?_⟩
      rw [hs] at hd
      exact hd

/-- A caller whose call is over was done before, as far as others are concerned. -/
theorem Stays.returned {r : Result α} (hs : m.Stays m' c) (h : m'.callers c = some (.returned r)) :
    m.callers c = some (.returned r) := by
  rcases hs with hs | hs
  · exact hs.symm.trans h
  · obtain ⟨p, hp, hw⟩ := Option.map_eq_some_iff.1 (hs.symm.trans h)
    cases p with
    | blocked d => cases hw
    | _ => exact hp.trans (congrArg some hw)

/-- Those of the moves that are in question leave the pool as it is. -/
def Keeps (m : Machine α) (who : Move α → Prop) (more : List (Move α)) : Prop :=
  ∀ pre move, pre ++ [move] <+: more → who move → ((m.run pre).step move).pool = (m.run pre).pool

/-- A caller asks and is not about to make an attempt: it is in one. -/
def InAttempt (m : Machine α) (c : CallerId) : Prop :=
  ∃ p, m.callers c = some p ∧ p.isGet = true ∧ p.isTrying = false

/-- A caller that stays in its attempt takes nothing. -/
theorem step_pool_of_inAttempt (h : m.InAttempt c) (h' : (m.step move).InAttempt c)
    (hm : move.caller? = some c) : (m.step move).pool = m.pool := by
  obtain ⟨p, hp, hget, htry⟩ := h
  obtain ⟨q, hq, hget', htry'⟩ := h'
  cases move with
  | tick millis => cases hm
  | call c' k =>
    obtain rfl : c' = c := Option.some.inj hm
    have hf : m.isFree c' = false := (gets_of_phase hp hget).isFree
    have hs : m.step (.call c' k) = m := if_neg (by simp [hf])
    rw [hs]
  | worked c' w =>
    obtain rfl : c' = c := Option.some.inj hm
    rcases worked_cases m c' w with hs | ⟨q', hq', hn⟩
    · exact congrArg pool hs
    · obtain rfl := Option.some.inj (hq.symm.trans hq')
      exact absurd (hget'.symm.trans hn) (by decide)
  | resume c' =>
    obtain rfl : c' = c := Option.some.inj hm
    cases p with
    | trying d => cases htry
    | destroying obj errand => cases hget
    | returned r => cases hget
    | creating => simp only [step, resume, hp]
    | blocked d => simp only [step, resume, hp, put]
    | looking d =>
      simp only [step, resume, hp] at hq ⊢
      unfold look at hq ⊢
      split
      · rename_i obj rest hi
        rw [hi] at hq
        simp only [reuse, put_self] at hq
        obtain rfl := Option.some.inj hq
        cases hget'
      · repeat' split
        all_goals rfl

theorem Since.keeps (h : m.Since (InAttempt · c) more) : m.Keeps (·.caller? = some c) more := by
  intro pre move hpre hm
  have hbefore := h pre ((List.prefix_append _ _).trans hpre)
  have hafter := h _ hpre
  rw [run_snoc] at hafter
  exact step_pool_of_inAttempt hbefore hafter hm

/-! ## A get that yields nothing -/

end Machine
end Sluice.Pool
