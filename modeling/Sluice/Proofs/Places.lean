import Sluice.Proofs.Handlers

/-!
# Where a request is

A request is known by its permit. While it is under way it is in one place, with its handler or among those that
wait, and no other has its permit.

* `Machine.places`: the requests that have a permit. `Machine.Moved`: what a move can do with them.
* `Machine.Carries`: a request is under way. `Carries.moved`: **it remains so until a move ends it**.
  `Carries.gone`: then it is gone.
* `run_gone`: **nobody has a permit that has not been issued**.
-/

namespace Sluice

namespace Machine

open World

variable {m : Machine}

/-- Requests: those whose handlers run, and those that wait. -/
@[ext] structure Places where
  running : List Admission
  waiting : Table RequestId Admission

/-- The requests with a permit. -/
def places (m : Machine) (p : PermitId) : Places where
  running := (handlers m.stack).filter fun b => b.permit.id = p
  waiting r := (m.world.waiting r).filter fun b => b.permit.id = p

/-- What a move does with the requests that have a permit. -/
inductive Moved (p : PermitId) (m : Machine) (move : Move) (m' : Machine) : Prop
  | stays (h : m'.places p = m.places p)
  | entered (hi : m.world.issuer p = none) (hi' : m'.world.issuer p ≠ none)
  | resumed (r : RequestId) (a : Admission) (hr : (m.places p).waiting r = some a)
      (h : m'.places p = ⟨a :: (m.places p).running, (m.places p).waiting.erase r⟩)
  | parked (r : RequestId) (a : Admission) (l : List Admission) (hl : (m.places p).running = a :: l)
      (h : m'.places p = ⟨l, (m.places p).waiting.set r a⟩)
  | left (a : Admission) (l : List Admission) (hl : (m.places p).running = a :: l)
      (h : m'.places p = ⟨l, (m.places p).waiting⟩) (he : ∃ t after, m.Ends a move t after)
  | cancelled (r : RequestId) (a : Admission) (hr : (m.places p).waiting r = some a)
      (h : m'.places p = ⟨(m.places p).running, (m.places p).waiting.erase r⟩)
      (he : ∃ t after, m.Ends a move t after)

section Places

variable {p : PermitId} {t : Table RequestId Admission} {r : RequestId} {a b : Admission} {m' : Machine}
  {move : Move}

theorem filter_erase :
    (fun x => ((t.erase r) x).filter fun b => b.permit.id = p) =
      Table.erase (fun x => (t x).filter fun b => b.permit.id = p) r := by
  funext x
  unfold Table.erase
  split <;> rfl

theorem filter_set (ha : a.permit.id = p) :
    (fun x => ((t.set r a) x).filter fun b => b.permit.id = p) =
      Table.set (fun x => (t x).filter fun b => b.permit.id = p) r a := by
  funext x
  unfold Table.set
  split
  · simp [ha]
  · rfl

/-- A request with another permit does not count. -/
theorem filter_erase_of_ne (hr : t r = some a) (ha : a.permit.id ≠ p) :
    (fun x => ((t.erase r) x).filter fun b => b.permit.id = p) =
      fun x => (t x).filter fun b => b.permit.id = p := by
  funext x
  unfold Table.erase
  split
  · rename_i hx
    rw [hx, hr]
    simp [Option.filter, ha]
  · rfl

theorem filter_set_of_ne (hr : t r = none) (ha : a.permit.id ≠ p) :
    (fun x => ((t.set r a) x).filter fun b => b.permit.id = p) =
      fun x => (t x).filter fun b => b.permit.id = p := by
  funext x
  unfold Table.set
  split
  · rename_i hx
    simp [hx, hr, ha]
  · rfl

theorem places_eq_of_eq (hh : handlers m'.stack = handlers m.stack) (hw : m'.world.waiting = m.world.waiting) :
    m'.places p = m.places p := by
  unfold places
  rw [hh, hw]

theorem filter_cons_of_eq (ha : a.permit.id = p) (l : List Admission) :
    (a :: l).filter (fun b => b.permit.id = p) = a :: l.filter fun b => b.permit.id = p :=
  List.filter_cons_of_pos (by simpa using ha)

theorem filter_cons_of_ne (ha : a.permit.id ≠ p) (l : List Admission) :
    (a :: l).filter (fun b => b.permit.id = p) = l.filter fun b => b.permit.id = p :=
  List.filter_cons_of_neg (by simpa using ha)

/-- **What a move does with the requests that have a permit** is what it does with the request that it moves, if
that is one of them. -/
theorem Shift.moved (h : Shift m move m') (p : PermitId) : Moved p m move m' := by
  cases h with
  | sits h => exact .stays (places_eq_of_eq h.handlers h.waiting)
  | entered a hi hi' hw hh =>
    by_cases ha : a.permit.id = p
    · subst ha
      exact .entered hi (by rw [hi']; exact Option.some_ne_none _)
    · refine .stays (Places.ext ?_ ?_)
      · simp only [places, hh, filter_cons_of_ne ha]
      · simp only [places, hw]
  | resumed r a hr hw hh =>
    by_cases ha : a.permit.id = p
    · refine .resumed r a (by simp [places, hr, ha]) (Places.ext ?_ ?_)
      · simp only [places, hh, filter_cons_of_eq ha]
      · simp only [places, hw, filter_erase]
    · refine .stays (Places.ext ?_ ?_)
      · simp only [places, hh, filter_cons_of_ne ha]
      · simp only [places, hw, filter_erase_of_ne hr ha]
  | parked r a hr hw hh =>
    by_cases ha : a.permit.id = p
    · refine .parked r a _ (by simp only [places, hh, filter_cons_of_eq ha]) (Places.ext rfl ?_)
      simp only [places, hw, filter_set ha]
    · refine .stays (Places.ext ?_ ?_)
      · simp only [places, hh, filter_cons_of_ne ha]
      · simp only [places, hw, filter_set_of_ne hr ha]
  | dropped a hd he =>
    cases hd with
    | handler hw hh =>
      by_cases ha : a.permit.id = p
      · refine .left a _ (by simp only [places, hh, filter_cons_of_eq ha]) (Places.ext rfl ?_) he
        simp only [places, hw]
      · refine .stays (Places.ext ?_ ?_)
        · simp only [places, hh, filter_cons_of_ne ha]
        · simp only [places, hw]
    | waiting r hr hw hh =>
      by_cases ha : a.permit.id = p
      · refine .cancelled r a (by simp [places, hr, ha]) (Places.ext ?_ ?_) he
        · simp only [places, hh]
        · simp only [places, hw, filter_erase]
      · refine .stays (Places.ext ?_ ?_)
        · simp only [places, hh]
        · simp only [places, hw, filter_erase_of_ne hr ha]

/-- No request has this permit. -/
def Gone (m : Machine) (p : PermitId) : Prop := m.places p = ⟨[], .empty⟩

/-- A request is under way, and no other has its permit. -/
def Carries (m : Machine) (a : Admission) : Prop :=
  m.places a.permit.id = ⟨[a], .empty⟩ ∨ ∃ r, m.places a.permit.id = ⟨[], Table.empty.set r a⟩

/-- The handler of a request runs, or the request waits. -/
def UnderWay (m : Machine) (a : Admission) : Prop := .handler a ∈ m.stack ∨ ∃ r, m.world.waiting r = some a

theorem underWay_iff :
    m.UnderWay a ↔ a ∈ (m.places a.permit.id).running ∨ ∃ r, (m.places a.permit.id).waiting r = some a := by
  simp [UnderWay, places, mem_handlers]

theorem Carries.underWay (h : m.Carries a) : m.UnderWay a := by
  rw [underWay_iff]
  rcases h with h | ⟨r, h⟩ <;> rw [h]
  · exact .inl List.mem_cons_self
  · exact .inr ⟨r, Table.set_self _ _ _⟩

/-- What ends a request finds it under way. -/
theorem Ends.underWay {s : List Activation} {after : After} (h : m.Ends a move s after) : m.UnderWay a := by
  cases h with
  | answered hs | panicked hs => exact .inl (by rw [hs]; exact List.mem_cons_self)
  | cancelled hr => exact .inr ⟨_, hr⟩

theorem Gone.not_underWay (h : m.Gone a.permit.id) : ¬ m.UnderWay a := by
  rw [underWay_iff, h]
  simp

theorem erase_set_empty (r : RequestId) (a : Admission) :
    (Table.empty.set r a).erase r = (Table.empty : Table RequestId Admission) := by
  funext x
  unfold Table.erase Table.set
  split
  · rfl
  · rfl

theorem of_set_empty {r' : RequestId} (h : (Table.empty.set r a : Table RequestId Admission) r' = some b) :
    r' = r ∧ b = a := by
  rcases Table.set_cases h with h | ⟨-, h⟩
  · exact h
  · cases h

/-- No other request has the permit. -/
theorem Carries.unique (h : m.Carries a) (hb : m.UnderWay b) (hp : b.permit.id = a.permit.id) : b = a := by
  rw [underWay_iff, hp] at hb
  rcases h with h | ⟨r, h⟩ <;> rw [h] at hb
  · rcases hb with hb | ⟨r', hb⟩
    · exact List.mem_singleton.1 hb
    · cases hb
  · rcases hb with hb | ⟨r', hb⟩
    · cases hb
    · exact (of_set_empty hb).2

/-- **A request that is under way goes on to be**, unless a move ends it. -/
theorem Carries.moved (h : m.Carries a) (hi : m.world.issuer a.permit.id ≠ none)
    (hm : Moved a.permit.id m move m') :
    m'.Carries a ∨ m'.Gone a.permit.id ∧ ∃ t after, m.Ends a move t after := by
  cases hm with
  | stays hm => exact .inl (by unfold Carries; rw [hm]; exact h)
  | entered hi' _ => exact absurd hi' hi
  | resumed r b hr hm =>
    rcases h with h | ⟨r₀, h⟩ <;> rw [h] at hr hm
    · cases hr
    · obtain ⟨rfl, rfl⟩ := of_set_empty hr
      rw [erase_set_empty] at hm
      exact .inl (.inl hm)
  | parked r b l hl hm =>
    rcases h with h | ⟨r₀, h⟩ <;> rw [h] at hl hm
    · cases hl
      exact .inl (.inr ⟨r, hm⟩)
    · cases hl
  | left b l hl hm he =>
    rcases h with h | ⟨r₀, h⟩ <;> rw [h] at hl hm
    · cases hl
      exact .inr ⟨hm, he⟩
    · cases hl
  | cancelled r b hr hm he =>
    rcases h with h | ⟨r₀, h⟩ <;> rw [h] at hr hm
    · cases hr
    · obtain ⟨rfl, rfl⟩ := of_set_empty hr
      rw [erase_set_empty] at hm
      exact .inr ⟨hm, he⟩

/-- Nobody comes to have a permit, if it has been issued before, or has not yet. -/
theorem Gone.moved (h : m.Gone p) (hi : m.world.issuer p ≠ none ∨ m'.world.issuer p = none)
    (hm : Moved p m move m') : m'.Gone p := by
  unfold Gone at h ⊢
  cases hm with
  | stays hm => rw [hm, h]
  | entered hn hs => exact absurd (hi.resolve_left fun h => h hn) hs
  | resumed r b hr hm | cancelled r b hr hm =>
    rw [h] at hr
    cases hr
  | parked r b l hl hm | left b l hl hm =>
    rw [h] at hl
    cases hl

/-- A request that is let in is the only one with its permit. -/
theorem Gone.entered (h : m.Gone a.permit.id) (hw : m'.world.waiting = m.world.waiting)
    (hh : handlers m'.stack = a :: handlers m.stack) : m'.Carries a := by
  refine .inl (Places.ext ?_ ?_)
  · simp only [places, hh, filter_cons_of_eq]
    exact congrArg (a :: ·) (congrArg Places.running h)
  · simp only [places, hw]
    exact congrArg Places.waiting h

/-- A request that is dropped was the only one with its permit. -/
theorem Carries.gone (h : m.Carries a) (hd : m.Drops a m') : m'.Gone a.permit.id := by
  cases hd with
  | handler hw hh =>
    have hrun : (m.places a.permit.id).running = a :: (m'.places a.permit.id).running := by
      simp only [places, hh, filter_cons_of_eq]
    have hwait : (m'.places a.permit.id).waiting = (m.places a.permit.id).waiting := by
      simp only [places, hw]
    rcases h with h | ⟨r, h⟩ <;> rw [h] at hrun hwait
    · exact Places.ext (List.cons.inj hrun).2.symm hwait
    · cases hrun
  | waiting r hr hw hh =>
    have hrun : (m'.places a.permit.id).running = (m.places a.permit.id).running := by
      simp only [places, hh]
    have hwait : (m'.places a.permit.id).waiting = (m.places a.permit.id).waiting.erase r := by
      simp only [places, hw, filter_erase]
    have hmine : (m.places a.permit.id).waiting r = some a := by simp [places, hr]
    rcases h with h | ⟨r₀, h⟩ <;> rw [h] at hrun hwait hmine
    · cases hmine
    · obtain ⟨rfl, -⟩ := of_set_empty hmine
      rw [erase_set_empty] at hwait
      exact Places.ext hrun hwait

end Places

/-! ## Permits that have been issued -/

variable {p : PermitId} {g : GateId}

/-- What a turn leaves: that a permit has been issued, and what is in the books. -/
theorem Turn.issuer {b b' : Books} (h : Turn b b') (hi : b.issuer p = some g) : b'.issuer p = some g := by
  cases h with
  | @issued _ _ q _ _ hq =>
    have hne : p ≠ q := by
      rintro rfl
      cases hq.symm.trans hi
    exact (Table.set_of_ne _ _ hne).trans hi
  | made | returned | closed | reopened => exact hi

/-- **What happens to the books** while the machine moves on. -/
theorem run_trail (hs : m.world.Sound) (moves : List Move) :
    Turns m.world.books (run m moves).world.books := by
  let P (a : Scene) : Prop := a.1.Sound ∧ Turns m.world.books a.1.books
  refine (run_keep (P := P) (fun _ _ a b hab ha => ?_) ⟨hs, .refl⟩ moves).2
  exact ⟨hab.sound ha.1, ha.2.trans (hab.turns ha.1)⟩

/-- **A permit that has been issued** stays that of its gate. -/
theorem run_issuer (hs : m.world.Sound) (hi : m.world.issuer p = some g) (moves : List Move) :
    (run m moves).world.issuer p = some g :=
  (run_trail hs moves).keep (P := fun b => b.issuer p = some g) (fun _ _ hab h => hab.issuer h) hi

/-- **Nobody has a permit that has not been issued.** -/
theorem run_gone (moves : List Move) (hp : (run {} moves).world.issuer p = none) : (run {} moves).Gone p := by
  induction moves using List.reverseRecOn with
  | nil => rfl
  | append_singleton moves move ih =>
    rw [run_snoc] at hp ⊢
    have hbefore : (run {} moves).world.issuer p = none := by
      cases hi : (run {} moves).world.issuer p with
      | none => rfl
      | some g =>
        cases hp.symm.trans (run_issuer (run_sound moves) hi [move])
    exact (ih hbefore).moved (.inr hp) ((step_shifts _ move).moved p)

end Machine

end Sluice
