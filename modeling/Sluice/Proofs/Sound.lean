import Sluice.Proofs.Change

/-!
# What holds in every world

* `World.Rests`: what is left of an operation once its gates and coordinators are done with leaves
  these as they are.
* `World.Sound`: gates fit their counts, coordinators fit their pending sets, and the gates that a
  coordinator names are there under the names that it knows. `run_sound`: **every run keeps it**,
  whoever opens and closes gates and whatever code runs in between.
* `coordinator_consistent`: what that comes to for the fields of a coordinator and what it shows.
-/

namespace Sluice

namespace World

/-- Nothing has changed but what is beside gates and coordinators, and some holders are gone. -/
structure Rests (w w' : World) : Prop where
  gates : w'.gates = w.gates
  history : ∀ c, w'.history c = w.history c
  coordinators : ∀ c, w'.coordinators c = w.coordinators c ∨
    ∃ k n, w.coordinators c = some k ∧ n ≤ k.handles ∧ w'.coordinators c = some { k with handles := n }

variable {w w' w'' : World} {c d : CoordinatorId} {k k' : Coordinator} {g : GateId} {x y : Gate}

theorem Rests.refl (w : World) : w.Rests w := ⟨rfl, fun _ => rfl, fun _ => .inl rfl⟩

theorem Rests.trans (h : w.Rests w') (h' : w'.Rests w'') : w.Rests w'' := by
  refine ⟨h'.gates.trans h.gates, fun c => (h'.history c).trans (h.history c), fun c => ?_⟩
  -- holders may go in either step
  rcases h.coordinators c with e | ⟨k, n, hk, hn, e⟩
  · rcases h'.coordinators c with e' | ⟨k', n', hk', hn', e'⟩
    · exact .inl (e'.trans e)
    · exact .inr ⟨k', n', e ▸ hk', hn', e'⟩
  · rcases h'.coordinators c with e' | ⟨k', n', hk', hn', e'⟩
    · exact .inr ⟨k, n, hk, hn, e'.trans e⟩
    · obtain rfl : k' = { k with handles := n } := Option.some.inj (hk'.symm.trans e)
      exact .inr ⟨k, n', hk, Nat.le_trans hn' hn, e'⟩

theorem rests_alert (w : World) (a : Alert) : w.Rests (w.alert a) :=
  ⟨rfl, fun _ => alert_history _ _ _, fun _ => .inl rfl⟩

theorem rests_dropCoordinator (w : World) (c : CoordinatorId) : w.Rests (w.dropCoordinator c) := by
  unfold dropCoordinator
  split
  · exact Rests.refl w
  · rename_i k hk
    refine ⟨rfl, fun _ => rfl, fun d => ?_⟩
    by_cases hd : d = c
    · subst hd
      exact .inr ⟨k, k.handles - 1, hk, Nat.sub_le _ _, Table.set_self _ _ _⟩
    · exact .inl (Table.set_of_ne _ _ hd)

theorem rests_dropService (w : World) (x : ServiceId) : w.Rests (w.dropService x) := by
  unfold dropService
  split
  · exact Rests.refl w
  · have hset (y : Service) : w.Rests (w.setService x y) := ⟨rfl, fun _ => rfl, fun _ => .inl rfl⟩
    simp only
    split
    · exact (hset _).trans (rests_dropCoordinator _ _)
    · exact hset _

theorem rests_expire (w : World) (k : Coordinator) (d : Drain) : w.Rests (w.expire k d).1 := by
  unfold expire
  -- the alerts are raised one by one, each in the world that the last has left
  suffices h : ∀ (l : List (String × Int)) (v : World),
      v.Rests (l.foldl (fun w x => w.alert (.stillBusy x.1 x.2)) v) from h _ w
  intro l
  induction l with
  | nil => exact Rests.refl
  | cons y l ih => exact fun v => (rests_alert v _).trans (ih _)

theorem rests_poll (w : World) (k : Coordinator) (d : Drain) : w.Rests (w.poll k d).1 := by
  unfold poll
  split
  · exact Rests.refl w
  · split
    · exact rests_expire w k d
    · exact Rests.refl w

/-! ## Worlds with the same gates -/

/-- The gates are the same, and each coordinator is one that differs only in whom it tells and in who
holds it. -/
structure Alike (w w' : World) : Prop where
  gates : w'.gates = w.gates
  coordinators : ∀ c k', w'.coordinators c = some k' →
    ∃ k, w.coordinators c = some k ∧ k.Alike k'

theorem Alike.refl (w : World) : w.Alike w := ⟨rfl, fun _ k hk => ⟨k, hk, .refl k⟩⟩

theorem Alike.trans (h : w.Alike w') (h' : w'.Alike w'') : w.Alike w'' := by
  refine ⟨h'.gates.trans h.gates, fun c k'' hk'' => ?_⟩
  obtain ⟨k', hk', ha'⟩ := h'.coordinators c k'' hk''
  obtain ⟨k, hk, ha⟩ := h.coordinators c k' hk'
  exact ⟨k, hk, ha.trans ha'⟩

theorem Rests.alike (h : w.Rests w') : w.Alike w' := by
  refine ⟨h.gates, fun c k' hk' => ?_⟩
  rcases h.coordinators c with e | ⟨k, n, hk, -, e⟩
  · exact ⟨k', e ▸ hk', .refl k'⟩
  · cases e.symm.trans hk'
    exact ⟨k, hk, _, _, _, _, rfl⟩

theorem alike_setCoordinator (hk : w.coordinators c = some k) (ha : k.Alike k') :
    w.Alike (w.setCoordinator c k') := by
  refine ⟨rfl, fun d l hl => ?_⟩
  rcases Table.set_cases hl with ⟨rfl, rfl⟩ | ⟨-, hl⟩
  · exact ⟨k, hk, ha⟩
  · exact ⟨l, hl, .refl l⟩

theorem alike_note (w : World) (o : Occurrence) : w.Alike (w.note o) :=
  ⟨rfl, fun _ k hk => ⟨k, hk, .refl k⟩⟩

end World

namespace Machine

open World

variable {w : World} {s : List Activation} {c : CoordinatorId} {after : After}

theorem finish_rests (w : World) (s : List Activation) (after : After) :
    w.Rests (finish w s after).world := by
  unfold finish
  split
  · exact .refl w
  · split <;> exact .refl w
  · split <;> exact .refl w
  · rename_i d x timeout
    unfold firstPoll
    split
    · exact .refl w
    · rename_i k _
      have hp := rests_poll w k ⟨x, timeout, w.clock + timeout.toNanos⟩
      simp only
      split
      · rename_i v hv
        rw [hv] at hp
        exact hp.trans ⟨rfl, fun _ => rfl, fun _ => .inl rfl⟩
      · rename_i v o _ hv
        rw [hv] at hp
        exact hp.trans (rests_dropService v x)
  · exact .refl w

theorem finish_stack (w : World) (s : List Activation) (after : After) :
    (finish w s after).stack = s := by
  unfold finish
  split
  · rfl
  · split <;> rfl
  · split <;> rfl
  · unfold firstPoll
    split
    · rfl
    · simp only
      split <;> rfl
  · rfl

theorem deliver_alike : w.Alike (deliver w s c after).world := by
  unfold deliver
  split
  · exact (finish_rests w s after).alike
  · rename_i k hk
    split
    · exact (alike_setCoordinator hk ⟨_, _, _, _, rfl⟩).trans (finish_rests _ s after).alike
    · exact (alike_setCoordinator hk ⟨_, _, _, _, rfl⟩).trans (alike_note _ _)

theorem dispatch_alike : w.Alike (dispatch w s c after).world := by
  unfold dispatch
  split
  · exact (finish_rests w s after).alike
  · rename_i k hk
    split
    · exact (finish_rests w s after).alike
    · exact (alike_setCoordinator hk ⟨_, _, _, _, rfl⟩).trans deliver_alike

theorem nextHook_alike {h : Hook} {others : List Listener} :
    w.Alike (nextHook w s c h others after).world := by
  unfold nextHook
  split
  · exact deliver_alike
  · exact alike_note _ _

/-- **A callback runs**: caller's code is entered, the coordinator that it reports to is told, or
nothing happens because nobody holds that one any more. -/
theorem fire_cases (w : World) (s : List Activation) (g : GateId) (callback : Option DrainCallback)
    (after : After) :
    (fire w s g callback after = finish w s after ∧ callback = none) ∨
      ∃ cb, callback = some cb ∧
        ((∃ code, cb = .run code ∧
            fire w s g callback after =
              ⟨w.note (.fired g cb), .callback g code after :: s, .entered⟩) ∨
          (∃ c n k, cb = .report c n ∧ w.coordinators c = some k ∧ k.isAlive = true ∧
            fire w s g callback after =
              dispatch ((w.note (.fired g cb)).drained c k n g) s c after) ∨
          (∃ c n, cb = .report c n ∧ (∀ k, w.coordinators c = some k → k.isAlive = false) ∧
            fire w s g callback after = finish (w.note (.fired g cb)) s after)) := by
  unfold fire
  cases callback with
  | none => exact .inl ⟨rfl, rfl⟩
  | some cb =>
    refine .inr ⟨cb, rfl, ?_⟩
    cases cb with
    | run code => exact .inl ⟨code, rfl, rfl⟩
    | report c n =>
      simp only [note_coordinators]
      cases hk : w.coordinators c with
      | none => exact .inr (.inr ⟨c, n, rfl, fun k h => (nomatch hk.symm.trans h), by simp⟩)
      | some k =>
        by_cases ha : k.isAlive = true
        · exact .inr (.inl ⟨c, n, k, rfl, hk, ha, by simp [ha]⟩)
        · refine .inr (.inr ⟨c, n, rfl, fun l h => ?_, by simp [ha]⟩)
          cases hk.symm.trans h
          simpa using ha

end Machine

namespace World

/-! ## Soundness -/

/-- A coordinator fits the gates of the world. -/
structure Fits (w : World) (k : Coordinator) : Prop where
  sound : k.Sound
  known : ∀ g ∈ k.gates, ∃ x, w.gates g = some x
  named : ∀ p g n, k.pending = some p → (g, n) ∈ p.gates → ∃ x, w.gates g = some x ∧ x.name = n

/-- Gates and coordinators are sound, and fit each other. -/
structure Sound (w : World) : Prop where
  gates : ∀ g x, w.gates g = some x → x.Sound
  coordinators : ∀ c k, w.coordinators c = some k → w.Fits k

/-- The gates of one world are there in another, under the same names. -/
def Persists (w w' : World) : Prop :=
  ∀ g x, w.gates g = some x → ∃ y, w'.gates g = some y ∧ y.name = x.name

variable {w w' : World} {c d : CoordinatorId} {k k' : Coordinator} {g : GateId} {x y : Gate}

theorem Fits.persist (h : w.Fits k) (hp : w.Persists w') : w'.Fits k := by
  refine ⟨h.sound, fun g hg => ?_, fun p g n hk hm => ?_⟩
  · obtain ⟨x, hx⟩ := h.known g hg
    obtain ⟨y, hy, -⟩ := hp g x hx
    exact ⟨y, hy⟩
  · obtain ⟨x, hx, hn⟩ := h.named p g n hk hm
    obtain ⟨y, hy, hxy⟩ := hp g x hx
    exact ⟨y, hy, hxy.trans hn⟩

/-- A gate is struck, and others may have been unregistered with it. -/
theorem Fits.struck_of_subset (h : w.Fits k) {gs : List GateId} {date : String} (hgs : gs ⊆ k.gates)
    (hs : (({ k with gates := gs } : Coordinator).struck g date).Sound) :
    w.Fits (({ k with gates := gs } : Coordinator).struck g date) := by
  refine ⟨hs, fun f hf => h.known f (hgs (by simpa using hf)), fun q f n hq hm => ?_⟩
  obtain ⟨p, hp, hsub, -⟩ := Coordinator.struck_pending _ _ _ hq
  exact h.named p f n hp (hsub hm)

theorem Sound.alike (h : w.Sound) (ha : w.Alike w') : w'.Sound := by
  refine ⟨fun g x hx => h.gates g x (ha.gates ▸ hx), fun c k' hk' => ?_⟩
  obtain ⟨k, hk, hkk⟩ := ha.coordinators c k' hk'
  have hf := h.coordinators c k hk
  refine ⟨hf.sound.alike hkk, ?_, ?_⟩
  · obtain ⟨_, _, _, _, rfl⟩ := hkk
    rw [ha.gates]; exact hf.known
  · obtain ⟨_, _, _, _, rfl⟩ := hkk
    rw [ha.gates]; exact hf.named

/-- One gate has become another of the same name. -/
theorem Sound.changeGate (h : w.Sound) (hx : w.gates g = some x) (hy : y.Sound)
    (hn : y.name = x.name) (hg : w'.gates = w.gates.set g y) (hc : w'.coordinators = w.coordinators) :
    w'.Sound := by
  -- the coordinators still find their gates
  have hp : w.Persists w' := by
    intro f z hz
    rw [hg]
    by_cases hf : f = g
    · subst hf
      cases hx.symm.trans hz
      exact ⟨y, Table.set_self _ _ _, hn⟩
    · exact ⟨z, (Table.set_of_ne _ _ hf).trans hz, rfl⟩
  refine ⟨fun f z hz => ?_, fun d k hk => (h.coordinators d k (hc ▸ hk)).persist hp⟩
  rw [hg] at hz
  rcases Table.set_cases hz with ⟨-, rfl⟩ | ⟨-, hz⟩
  · exact hy
  · exact h.gates f z hz

/-- Gates persist, and one coordinator has become another that fits them. -/
theorem Sound.changeCoordinator (h : w.Sound) (hp : w.Persists w')
    (hg : ∀ g x, w'.gates g = some x → x.Sound) (hc : w'.coordinators = w.coordinators.set c k')
    (hk : w'.Fits k') : w'.Sound := by
  refine ⟨hg, fun d l hl => ?_⟩
  rw [hc] at hl
  rcases Table.set_cases hl with ⟨-, rfl⟩ | ⟨-, hl⟩
  · exact hk
  · exact (h.coordinators d l hl).persist hp

theorem persists_of_eq (hg : w'.gates = w.gates) : w.Persists w' := fun _ x hx =>
  ⟨x, hg ▸ hx, rfl⟩

/-- Some gates have each become another of the same name. -/
theorem persists_map {gs : List GateId} {f : Gate → Gate} (hf : ∀ x, (f x).name = x.name)
    (hg : ∀ g, w'.gates g = if g ∈ gs then (w.gates g).map f else w.gates g) : w.Persists w' := by
  intro g x hx
  rw [hg g]
  split
  · exact ⟨f x, by rw [hx]; rfl, hf x⟩
  · exact ⟨x, hx, rfl⟩

theorem sound_map {gs : List GateId} {f : Gate → Gate} (h : w.Sound)
    (hf : ∀ x, x.Sound → (f x).Sound)
    (hg : ∀ g, w'.gates g = if g ∈ gs then (w.gates g).map f else w.gates g) (g : GateId) (y : Gate)
    (hy : w'.gates g = some y) : y.Sound := by
  rw [hg g] at hy
  split at hy
  · obtain ⟨x, hx, rfl⟩ := Option.map_eq_some_iff.1 hy
    exact hf x (h.gates g x hx)
  · exact h.gates g y hy

theorem Sound.suspend (h : w.Sound) (hk : w.coordinators c = some k) (hs : k.state = .running) :
    (w.suspend c k).Sound := by
  have hf := h.coordinators c k hk
  have hp : w.Persists (w.suspend c k) :=
    persists_map (fun x => Gate.beginDrain_name x _) (suspend_gates w c k)
  -- what is waited for is registered
  have hreg : ∀ g n, (g, n) ∈ w.busy k.gates → g ∈ k.gates := fun g n hm => (mem_busy.1 hm).1
  refine h.changeCoordinator hp (sound_map h (fun x hx => hx.beginDrain _) (suspend_gates w c k))
    (suspend_coordinators w c k) ?_
  refine ⟨hf.sound.suspendedWith _ (nodup_busy hf.sound.nodup) (fun g hg => ?_) hs, fun g hg => ?_,
    fun p g n hq hm => ?_⟩
  · obtain ⟨⟨g, n⟩, hm, rfl⟩ := List.mem_map.1 hg
    exact hreg g n hm
  · rw [Coordinator.suspendedWith_gates] at hg
    obtain ⟨x, hx⟩ := hf.known g hg
    obtain ⟨y, hy, -⟩ := hp g x hx
    exact ⟨y, hy⟩
  · rw [Coordinator.suspendedWith_pending] at hq
    split at hq
    · cases hq
    · cases hq
      obtain ⟨-, x, hx, -, hn⟩ := mem_busy.1 hm
      obtain ⟨y, hy, hxy⟩ := hp g x hx
      exact ⟨y, hy, hxy.trans hn⟩

theorem Sound.resume (h : w.Sound) (hk : w.coordinators c = some k) : (w.resume c k).Sound := by
  have hf := h.coordinators c k hk
  have hp : w.Persists (w.resume c k) := persists_map Gate.reopen_name (resume_gates w c k)
  refine h.changeCoordinator hp (sound_map h (fun x hx => hx.reopen) (resume_gates w c k))
    (resume_coordinators w c k) ⟨hf.sound.reopening, fun g hg => ?_, fun p g n hq => by simp at hq⟩
  rw [Coordinator.reopening_gates] at hg
  obtain ⟨x, hx⟩ := hf.known g hg
  obtain ⟨y, hy, -⟩ := hp g x hx
  exact ⟨y, hy⟩

/-- A coordinator strikes a gate, and may have unregistered others with it. -/
theorem Sound.strike_of_fits (h : w.Sound) (hk : w.Fits (k.struck g w.date)) :
    (w.strike c k g).Sound := by
  have hg : (w.strike c k g).gates = w.gates := strike_gates w c k g
  exact h.changeCoordinator (persists_of_eq hg) (fun f z hz => h.gates f z (hg ▸ hz))
    (strike_coordinators w c k g) (hk.persist (persists_of_eq hg))

theorem Sound.strike (h : w.Sound) (hk : w.Fits k) (g : GateId) : (w.strike c k g).Sound :=
  h.strike_of_fits (hk.struck_of_subset (List.Subset.refl _) (hk.sound.struck g w.date))

theorem Sound.drained (h : w.Sound) (hk : w.coordinators c = some k) (n : Nat) (g : GateId) :
    (w.drained c k n g).Sound := by
  rcases drained_cases w c k n g with ⟨e, -⟩ | ⟨e, -⟩ <;> rw [e]
  · exact h.strike (h.coordinators c k hk) g
  · exact h

theorem Sound.removeGate (h : w.Sound) (hk : w.coordinators c = some k) (g : GateId) :
    (w.removeGate c k g).Sound := by
  have hf := h.coordinators c k hk
  exact h.strike_of_fits (hf.struck_of_subset List.filter_sublist.subset (hf.sound.removed g w.date))

theorem Sound.addGate (h : w.Sound) (hk : w.coordinators c = some k) (hx : w.gates g = some x) :
    (w.addGate c k g x).Sound := by
  by_cases hg : g ∈ k.gates
  · rw [addGate_of_mem hg]
    exact h.alike (alike_note _ _)
  have hf := h.coordinators c k hk
  have hcoord := addGate_coordinators (w := w) (c := c) (x := x) hg hf.sound
  -- the gate is closed, if at all, and keeps its name
  obtain ⟨y, hgy, hyx⟩ := addGate_gates_eq (c := c) hx hg
  obtain ⟨hy, hyn⟩ : y.Sound ∧ y.name = x.name := by
    rcases hyx with rfl | rfl
    · exact ⟨h.gates g y hx, rfl⟩
    · exact ⟨(h.gates g x hx).beginDrain _, Gate.beginDrain_name _ _⟩
  let v : World := w.setGate g y
  have hmid : v.Sound := h.changeGate hx hy hyn rfl rfl
  have hfm : v.Fits k := hmid.coordinators c k hk
  have hgv : (w.addGate c k g x).gates = v.gates := hgy
  refine hmid.changeCoordinator (persists_of_eq hgv) (fun f z hz => hmid.gates f z (hgv ▸ hz)) hcoord
    (Fits.persist ?_ (persists_of_eq hgv))
  refine ⟨hf.sound.joined hg _ _, fun f hm => ?_, fun q f n hq hm => ?_⟩
  · rcases List.mem_append.1 hm with hm | hm
    · exact hfm.known f hm
    · rw [List.mem_singleton.1 hm]
      exact ⟨y, Table.set_self _ _ _⟩
  · obtain ⟨p, hp, rfl⟩ := Option.map_eq_some_iff.1 hq
    split at hm
    · rcases List.mem_cons.1 hm with e | hm
      · cases e
        exact ⟨y, Table.set_self _ _ _, hyn⟩
      · exact hfm.named p f n hp (List.mem_filter.1 hm).1
    · exact hfm.named p f n hp hm

theorem Sound.newCoordinator (h : w.Sound) (c : CoordinatorId) : (w.setCoordinator c {}).Sound :=
  h.changeCoordinator (persists_of_eq rfl) h.gates rfl
    ⟨Coordinator.sound_new, fun g hg => by simp at hg, fun p g n hp => by simp at hp⟩

theorem Sound.newGate (h : w.Sound) (hg : w.gates g = none) (name : String) :
    (w.setGate g { name }).Sound := by
  have hp : w.Persists (w.setGate g { name }) := by
    intro f z hz
    refine ⟨z, ?_, rfl⟩
    rw [setGate_gates, Table.set_of_ne _ _ fun hf => ?_]
    · exact hz
    · rw [hf, hg] at hz; cases hz
  refine ⟨fun f z hz => ?_, fun d k hk => (h.coordinators d k hk).persist hp⟩
  rcases Table.set_cases hz with ⟨-, rfl⟩ | ⟨-, hz⟩
  · exact Gate.sound_new name
  · exact h.gates f z hz

end World

namespace Machine

open World

variable {w₀ w : World} {move : Move} {s : List Activation}

theorem fire_sound (h : w.Sound) (g : GateId) (callback : Option DrainCallback) (after : After) :
    (fire w s g callback after).world.Sound := by
  rcases fire_cases w s g callback after with
    ⟨e, -⟩ | ⟨cb, -, ⟨code, -, e⟩ | ⟨c, n, k, -, hk, -, e⟩ | ⟨c, n, -, -, e⟩⟩ <;> rw [e]
  · exact h.alike (finish_rests _ _ _).alike
  · exact h.alike (alike_note _ _)
  · exact ((h.alike (alike_note _ _)).drained hk n g).alike dispatch_alike
  · exact (h.alike (alike_note _ _)).alike (finish_rests _ _ _).alike

theorem Change.sound {a b : Scene} (hab : Change w₀ move a b) (h : a.1.Sound) : b.1.Sound := by
  cases hab with
  | gateMade _ hg => exact h.newGate hg _
  | letIn hg ho _ => exact h.changeGate hg ((h.gates _ _ hg).letIn ho) rfl rfl rfl
  | turnedAway hg _ =>
    rw [turnAway_eq hg (h.gates _ _ hg)]
    exact fire_sound h _ _ _
  | @returned w s g x p y _ _ hg hr =>
    have hx := h.gates _ _ hg
    obtain ⟨-, -, -, hn, -⟩ := Gate.release?_cases hx hr
    have hset : (w.setGate g y).Sound := h.changeGate hg (hx.release hr) hn rfl rfl
    exact fire_sound (hset.alike (alike_note _ _)) _ _ _
  | closed _ hg =>
    exact h.changeGate hg ((h.gates _ _ hg).beginDrain _) (Gate.beginDrain_name _ _) rfl rfl
  | reopened _ hg => exact h.changeGate hg (h.gates _ _ hg).reopen rfl rfl rfl
  | coordinatorMade _ => exact h.newCoordinator _
  | suspended hk _ hs => exact (h.suspend hk hs).alike dispatch_alike
  | resumed _ hk _ _ => exact (h.resume hk).alike dispatch_alike
  | gateAdded _ hk hg _ _ => exact h.addGate hk hg
  | gateRegistered _ hk hg _ => exact (h.newGate hg _).addGate hk (Table.set_self _ _ _)
  | gateRemoved _ hk _ => exact (h.removeGate hk _).alike dispatch_alike
  | subscribed hk => exact h.alike ((alike_setCoordinator hk ⟨_, _, _, _, rfl⟩).trans (alike_note _ _))
  | declined => exact h.alike (alike_note _ _)
  | unsubscribed hk =>
    exact h.alike ((alike_setCoordinator hk ⟨_, _, _, _, rfl⟩).trans (alike_note _ _))
  | shared hk _ => exact h.alike (alike_setCoordinator hk ⟨_, _, _, _, rfl⟩)
  | dropped hk => exact h.alike (alike_setCoordinator hk ⟨_, _, _, _, rfl⟩)
  | hookLeft => exact h.alike nextHook_alike
  | callbackLeft | handlerEntered | handlerLeft => exact h
  | finished => exact h.alike (finish_rests _ _ _).alike
  | alerted => exact h.alike (alike_note _ _)
  | aside hg _ hc _ =>
    exact h.alike ⟨hg, fun c k hk => ⟨k, hc ▸ hk, .refl k⟩⟩

theorem sound_new : (World.Sound {}) :=
  ⟨fun g x hx => by simp at hx, fun c k hk => by simp at hk⟩

/-- **Every run keeps the world sound.** -/
theorem run_sound (moves : List Move) : (run {} moves).world.Sound :=
  run_keep (P := fun a => a.1.Sound) (m := {}) (fun _ _ _ _ hab => hab.sound) sound_new moves

/-- **The fields of a coordinator agree** between any two moves of any run, also while hooks and
callbacks run. It waits for gates just while it suspends: for some of those that are registered, each
once and under its name, in the current attempt. It has a date just while it is suspended, no gate is
registered twice, and watchers see the state that a snapshot shows. -/
theorem coordinator_consistent (moves : List Move) {c : CoordinatorId} {k : Coordinator}
    (hk : (run {} moves).world.coordinators c = some k) :
    let m := run {} moves
    let s := m.world.snapshot k
    (k.pending ≠ none ↔ k.state = .suspending) ∧
    (∀ p, k.pending = some p →
      p.generation = k.generation ∧ p.gates ≠ [] ∧ (p.gates.map Prod.fst).Nodup ∧
        ∀ g n, (g, n) ∈ p.gates → g ∈ k.gates ∧ ∃ x, m.world.gates g = some x ∧ x.name = n) ∧
    (k.suspendedAt ≠ none ↔ k.state = .suspended) ∧
    k.gates.Nodup ∧
    s.state = k.published ∧
    (s.pending ≠ [] ↔ k.published = .suspending) ∧
    (s.suspendedAt ≠ none ↔ k.published = .suspended) := by
  intro m s
  have hf : m.world.Fits k := (run_sound moves).coordinators c k hk
  have hs : k.Sound := hf.sound
  refine ⟨hs.pending_iff, fun p hp => ?_, hs.date_iff, hs.nodup, hs.published.symm, ?_, ?_⟩
  · have hw : k.Waits p := hs.waits p hp
    refine ⟨hw.generation, hw.ne_nil, hw.nodup, fun g n hm => ⟨?_, hf.named p g n hp hm⟩⟩
    exact hw.registered g (Pending.waitsFor_iff.2 (List.mem_map_of_mem hm))
  · rw [hs.published]
    exact hs.pendingNames_ne_nil
  · rw [hs.published]
    exact hs.date_iff

/-- Inside a hook of the suspend, a listener opens the gate that is waited for and has another
coordinator close it again. -/
theorem coordinator_consistent_nested :
    let c : CoordinatorId := ⟨0⟩
    let d : CoordinatorId := ⟨1⟩
    let p : Permit := ⟨⟨⟨1, by decide⟩⟩, ⟨⟨0, by decide⟩⟩⟩
    let moves : List Move := [.call (.newCoordinator c), .call (.newCoordinator d),
      .call (.registerGate c p.gate "a"), .call (.addGate d p.gate),
      .call (.addListener c ⟨⟨0⟩, "l"⟩ fun _ => .accept), .call (.acquire p.gate p.id),
      .call (.suspend c), .call (.reopen p.gate), .call (.suspend d)]
    (run {} moves).stack ≠ [] ∧
      ∃ k q, (run {} moves).world.coordinators c = some k ∧ k.pending = some q ∧
        q.generation = k.generation ∧ q.gates ≠ [] ∧ p.gate ∈ k.gates ∧
        k.published = .suspending ∧ ((run {} moves).world.snapshot k).pending ≠ [] := by
  intro c d p moves
  let q : Pending := ⟨1, [(p.gate, "a")]⟩
  have hk : (run {} moves).world.coordinators c =
      some { state := .suspending, generation := 1, gates := [p.gate], listeners := [⟨⟨0⟩, "l"⟩],
             pending := some q, dispatching := true, published := .suspending, version := 1 } := by
    decide +kernel
  obtain ⟨-, hpending, -, -, -, hshown, -⟩ := coordinator_consistent moves hk
  obtain ⟨hn, hne, -, hreg⟩ := hpending q rfl
  obtain ⟨hg, -⟩ := hreg p.gate "a" (List.mem_singleton_self _)
  have hstack : (run {} moves).stack ≠ [] := by decide +kernel
  exact ⟨hstack, _, q, hk, rfl, hn, hne, hg, rfl, hshown.2 rfl⟩

end Machine

end Sluice
