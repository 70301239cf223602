import Sluice.Proofs.Returns

/-!
# What becomes of a gate's callback

A gate has room for one callback. Who closes it while work is in flight leaves one there, which runs when
the last permit comes back, unless the gate is opened first or is closed again: then the next callback is
in its place, and this one never runs.

* `World.story`: what has happened to one gate, newest first. `GateTurn`, `Turn.gateTurn`: what can happen
  to it at once.
* `Pledged`: where the callback of a gate comes from, and what has become of those that it had.
  `GateTurn.pledged`: **whatever happens to a gate keeps it**.
* `callback_exact`: when a callback runs.
* `callback_replaced`: one that never does, although its gate is drained and was not opened.
-/

namespace Sluice

/-- Whether something happened to this gate. -/
def Occurrence.befalls (g : GateId) : Occurrence → Bool
  | .issued f _ | .returned f _ | .closed f _ _ | .reopened f | .fired f _ => f = g
  | _ => false

/-- Whether work has come in or is done. -/
def Occurrence.isWork : Occurrence → Bool
  | .issued _ _ | .returned _ _ => true
  | _ => false

/-- Whether a gate has been closed or opened. -/
def Occurrence.isSwitch : Occurrence → Bool
  | .closed _ _ _ | .reopened _ => true
  | _ => false

/-- What has happened to a gate, newest first. -/
def Books.story (b : Books) (g : GateId) : List Occurrence := b.entries.filter (·.befalls g)

/-- What has happened to a gate, newest first. -/
def World.story (w : World) (g : GateId) : List Occurrence := w.journal.filter (·.befalls g)

theorem World.story_books (w : World) (g : GateId) : w.books.story g = w.story g := by
  unfold Books.story World.books World.story
  rw [List.filter_filter]
  congr 1
  funext o
  -- what happens to a gate is in the books
  cases o <;> simp [Occurrence.befalls, Occurrence.isEntry]

namespace Machine

/-- What can happen to one gate at once. -/
inductive GateTurn (g : GateId) : Option Gate → List Occurrence → Option Gate → List Occurrence → Prop
  | elsewhere {x h} : GateTurn g x h x h
  | made {name h} : GateTurn g none h (some { name }) h
  | issued {x : Gate} {p h} (ho : x.isOpen = true) :
      GateTurn g (some x) h (some (x.letIn p)) (.issued g p :: h)
  | returned {x y : Gate} {p callback h} (hr : x.release? p = some (y, callback)) :
      GateTurn g (some x) h (some y)
        ((callback.map (Occurrence.fired g)).toList ++ .returned g p :: h)
  | closed {x : Gate} {cb h} :
      GateTurn g (some x) h (some (x.beginDrain cb))
        (.closed g cb (decide (x.outstanding = 0)) :: h)
  | reopened {x : Gate} {h} : GateTurn g (some x) h (some x.reopen) (.reopened g :: h)

/-- Where the callback of a gate comes from, and what has become of those that it had. -/
structure Pledged (g : GateId) (x : Option Gate) (h : List Occurrence) : Prop where
  /-- The callback is that of the last who closed the gate, and only work has come and gone since. -/
  held : ∀ y cb, x = some y → y.callback = some cb →
    ∃ new old, h = new ++ .closed g cb false :: old ∧ ∀ o ∈ new, o.isWork = true
  /-- A callback that ran was the last, and ran when a permit came back. -/
  fired : ∀ new cb old, h = new ++ .fired g cb :: old →
    ∃ p mid rest, old = .returned g p :: mid ++ .closed g cb false :: rest ∧ ∀ o ∈ mid, o.isWork = true
  /-- Until the gate is closed or opened again, the callback waits there or has run. -/
  kept : ∀ new cb old, h = new ++ .closed g cb false :: old → (∀ o ∈ new, o.isSwitch = false) →
    ∃ y, x = some y ∧
      ((y.state = .draining ∧ y.callback = some cb ∧ ∀ o ∈ new, o.isWork = true) ∨
        (y.state = .drained ∧
          ∃ p mid, new = .fired g cb :: .returned g p :: mid ∧ ∀ o ∈ mid, o.isWork = true))

variable {f g : GateId} {a b : Books} {x x' : Option Gate} {y z : Gate} {h h' : List Occurrence}
  {o : Occurrence} {cb : DrainCallback}

theorem filter_befalls (new l : List Occurrence) (hn : ∀ o ∈ new, o.befalls g = decide (f = g)) :
    (new ++ l).filter (·.befalls g) = (if f = g then new else []) ++ l.filter (·.befalls g) := by
  rw [List.filter_append]
  split
  · rename_i hf
    rw [List.filter_eq_self.2 fun o ho => by rw [hn o ho, decide_eq_true hf]]
  · rename_i hf
    rw [List.filter_eq_nil_iff.2 fun o ho => by rw [hn o ho, decide_eq_false hf]; decide]

/-- One gate turns, and what is noted befalls it alone. -/
theorem gateTurn_of_set (new : List Occurrence) (hg : b.gates = a.gates.set f z)
    (he : b.entries = new ++ a.entries) (hn : ∀ o ∈ new, o.befalls g = decide (f = g))
    (ht : GateTurn f (a.gates f) (a.story f) (some z) (new ++ a.story f)) :
    GateTurn g (a.gates g) (a.story g) (b.gates g) (b.story g) := by
  have hs : b.story g = (if f = g then new else []) ++ a.story g := by
    unfold Books.story
    rw [he, filter_befalls new a.entries hn]
  rw [hg, hs]
  by_cases hfg : f = g
  · subst hfg
    rw [Table.set_self, if_pos rfl]
    exact ht
  · rw [Table.set_of_ne _ _ (Ne.symm hfg), if_neg hfg]
    exact .elsewhere

/-- A turn happens to one gate. -/
theorem Turn.gateTurn (hab : Turn a b) (g : GateId) :
    GateTurn g (a.gates g) (a.story g) (b.gates g) (b.story g) := by
  cases hab with
  | made hg =>
    refine gateTurn_of_set [] rfl rfl nofun ?_
    rw [hg]
    exact .made
  | @issued f x p hg ho hp =>
    refine gateTurn_of_set [.issued f p] rfl rfl (fun o ho => ?_) ?_
    · rw [List.mem_singleton.1 ho]
      rfl
    · rw [hg]
      exact .issued ho
  | @returned f x p y callback hg hr =>
    refine gateTurn_of_set ((callback.map (Occurrence.fired f)).toList ++ [.returned f p]) rfl
      (List.append_cons _ _ _) (fun o ho => ?_) ?_
    · rcases List.mem_append.1 ho with ho | ho
      · obtain ⟨cb, -, rfl⟩ := Option.map_eq_some_iff.1 (Option.mem_toList.1 ho)
        rfl
      · rw [List.mem_singleton.1 ho]
        rfl
    · rw [hg, ← List.append_cons]
      exact .returned hr
  | @closed f x cb hg =>
    refine gateTurn_of_set [.closed f cb (decide (x.outstanding = 0))] rfl rfl (fun o ho => ?_) ?_
    · rw [List.mem_singleton.1 ho]
      rfl
    · rw [hg]
      exact .closed
  | @reopened f x hg =>
    refine gateTurn_of_set [.reopened f] rfl rfl (fun o ho => ?_) ?_
    · rw [List.mem_singleton.1 ho]
      rfl
    · rw [hg]
      exact .reopened

/-! ## Pledges -/

theorem pledged_new (g : GateId) : Pledged g none [] :=
  ⟨fun _ _ he => (nomatch he), fun _ _ _ he => by simp at he, fun _ _ _ he => by simp at he⟩

/-- What is noted is no callback that ran. -/
theorem Pledged.fired_cons (hp : Pledged g x h) (ho : ∀ cb, o ≠ .fired g cb) (new : List Occurrence)
    (cb : DrainCallback) (old : List Occurrence) (he : o :: h = new ++ .fired g cb :: old) :
    ∃ p mid rest, old = .returned g p :: mid ++ .closed g cb false :: rest ∧
      ∀ o ∈ mid, o.isWork = true := by
  rcases List.append_eq_cons_iff.1 he.symm with ⟨-, hfirst⟩ | ⟨new', -, hlater⟩
  · cases hfirst
    exact absurd rfl (ho cb)
  · exact hp.fired new' cb old hlater

/-- Work comes and goes, and the gate stays as it is but for its count. -/
theorem Pledged.work (hp : Pledged g (some y) h) (ho : o.isWork = true) (hs : z.state = y.state)
    (hc : z.callback = y.callback) (hd : y.state ≠ .drained) : Pledged g (some z) (o :: h) := by
  have hcons {l : List Occurrence} (hl : ∀ o ∈ l, o.isWork = true) : ∀ q ∈ o :: l, q.isWork = true := by
    intro q hq
    rcases List.mem_cons.1 hq with rfl | hq
    · exact ho
    · exact hl q hq
  refine ⟨fun y' cb he hcb => ?_, hp.fired_cons (fun cb he => by rw [he] at ho; cases ho),
    fun new cb old he hn => ?_⟩
  · cases he
    obtain ⟨new, old, rfl, hw⟩ := hp.held y cb rfl (hc ▸ hcb)
    exact ⟨o :: new, old, rfl, hcons hw⟩
  · rcases List.append_eq_cons_iff.1 he.symm with ⟨-, hfirst⟩ | ⟨new', rfl, hlater⟩
    · cases hfirst
      cases ho
    · obtain ⟨y', hy', hk⟩ := hp.kept new' cb old hlater fun q hq => hn q (List.mem_cons_of_mem _ hq)
      cases hy'
      rcases hk with ⟨hdr, hcb, hw⟩ | ⟨hdr, -⟩
      · exact ⟨z, rfl, .inl ⟨hs.trans hdr, hc.trans hcb, hcons hw⟩⟩
      · exact absurd hdr hd

/-- The last permit comes back, and the callback runs. -/
theorem Pledged.fire (hp : Pledged g (some y) h) {p : PermitId} (hd : y.state = .draining)
    (hcb : y.callback = some cb) (hs : z.state = .drained) (hc : z.callback = none) :
    Pledged g (some z) (.fired g cb :: .returned g p :: h) := by
  obtain ⟨mid, rest, hh, hw⟩ := hp.held y cb rfl hcb
  refine ⟨fun z' cb' he hcb' => ?_, fun new cb' old he => ?_, fun new cb' old he hn => ?_⟩
  · cases he
    rw [hc] at hcb'
    cases hcb'
  · -- this callback, or one that ran before
    rcases List.append_eq_cons_iff.1 he.symm with ⟨-, hfirst⟩ | ⟨new', -, hlater⟩
    · cases hfirst
      exact ⟨p, mid, rest, by rw [hh]; rfl, hw⟩
    · exact hp.fired_cons (o := .returned g p) (fun _ => nofun) new' cb' old hlater
  · rcases List.append_eq_cons_iff.1 he.symm with ⟨-, hfirst⟩ | ⟨new', rfl, hlater⟩
    · cases hfirst
    rcases List.append_eq_cons_iff.1 hlater.symm with ⟨-, hfirst⟩ | ⟨new'', rfl, hrest⟩
    · cases hfirst
    obtain ⟨y', hy', hk⟩ := hp.kept new'' cb' old hrest fun q hq => hn q (by simp [hq])
    cases hy'
    rcases hk with ⟨-, hcb', hw'⟩ | ⟨hdr, -⟩
    · cases hcb.symm.trans hcb'
      exact ⟨z, rfl, .inr ⟨hs, p, new'', rfl, hw'⟩⟩
    · rw [hd] at hdr
      cases hdr

/-- The gate is closed or opened: with work in flight, who has closed it has left its callback. -/
theorem Pledged.switch (hp : Pledged g (some y) h) (ho : o.isSwitch = true)
    (hc : ∀ cb, z.callback = some cb → o = .closed g cb false)
    (hk : ∀ cb, o = .closed g cb false → z.state = .draining ∧ z.callback = some cb) :
    Pledged g (some z) (o :: h) := by
  refine ⟨fun z' cb he hcb => ?_, hp.fired_cons (fun cb he => by rw [he] at ho; cases ho),
    fun new cb old he hn => ?_⟩
  · cases he
    exact ⟨[], h, by rw [hc cb hcb]; rfl, nofun⟩
  · rcases List.append_eq_cons_iff.1 he.symm with ⟨rfl, hfirst⟩ | ⟨new', rfl, -⟩
    · cases hfirst
      obtain ⟨hd, hcb⟩ := hk cb rfl
      exact ⟨z, rfl, .inl ⟨hd, hcb, nofun⟩⟩
    · rw [hn o List.mem_cons_self] at ho
      cases ho

/-- **Whatever happens to a gate keeps its pledges.** -/
theorem GateTurn.pledged (ht : GateTurn g x h x' h') (hs : ∀ y, x = some y → y.Sound)
    (hp : Pledged g x h) : Pledged g x' h' := by
  cases ht with
  | elsewhere => exact hp
  | made =>
    refine ⟨fun y cb he hcb => ?_, hp.fired, fun new cb old he hn => ?_⟩
    · cases he
      cases hcb
    · -- nobody has closed a gate that was not there
      obtain ⟨y, hy, -⟩ := hp.kept new cb old he hn
      cases hy
  | @issued y p h ho =>
    have hr : y.state = .running := of_decide_eq_true ho
    exact hp.work rfl rfl rfl (by rw [hr]; decide)
  | @returned y z p callback h hr =>
    have hy := hs y rfl
    obtain ⟨hpos, -, -, -, -, hcase⟩ := Gate.release?_cases hy hr
    rcases hcase with ⟨-, hd, hz, hzc, rfl⟩ | ⟨-, hz, hzc, rfl⟩
    · obtain ⟨cb, hcb⟩ := Option.ne_none_iff_exists'.1 (hy.draining hd).2
      rw [hcb]
      exact hp.fire hd hcb hz hzc
    · refine hp.work rfl hz hzc fun hd => ?_
      have hzero := (hy.drained hd).1
      omega
  | @closed y cb h =>
    refine hp.switch rfl (fun cb' hcb' => ?_) fun cb' he => ?_
    · unfold Gate.beginDrain at hcb'
      split at hcb'
      · cases hcb'
      · rename_i h0
        cases hcb'
        rw [decide_eq_false h0]
    · simp only [Occurrence.closed.injEq, decide_eq_false_iff_not, true_and] at he
      obtain ⟨rfl, h0⟩ := he
      unfold Gate.beginDrain
      rw [if_neg h0]
      exact ⟨rfl, rfl⟩
  | @reopened y h => exact hp.switch rfl (fun cb' hcb' => nomatch hcb') fun cb' he => nomatch he

theorem run_pledged (moves : List Move) (g : GateId) :
    Pledged g ((run {} moves).world.gates g) ((run {} moves).world.story g) := by
  rw [← World.story_books]
  exact run_books (P := fun b => Pledged g (b.gates g) (b.story g)) (pledged_new g)
    (fun a b hs hab hp => (hab.gateTurn g).pledged (hs g) hp) moves

/-- A gate holds no callback but one with which it was closed. -/
theorem closed_of_callback (moves : List Move) (hx : (run {} moves).world.gates g = some y)
    (hcb : y.callback = some cb) : .closed g cb false ∈ (run {} moves).world.journal := by
  obtain ⟨new, old, hstory, -⟩ := (run_pledged moves g).held y cb hx hcb
  have hm : .closed g cb false ∈ (run {} moves).world.story g := by
    rw [hstory]
    exact List.mem_append_right new List.mem_cons_self
  exact (List.mem_filter.1 hm).1

/-! ## When a callback runs -/

/-- With the last permit of a gate that drains, the code that was left there is entered. -/
theorem giveBack_enters {w : World} {s : List Activation} {p : PermitId} {code : CodeId}
    (hg : w.gates g = some y) (hy : y.Sound) (hd : y.state = .draining)
    (hcb : y.callback = some (.run code)) (hlast : y.permits = [p]) :
    (giveBack w s g p).stack = .callback g code (.reply .done) :: s ∧
      (giveBack w s g p).signal = .entered := by
  have hp : p ∈ y.permits := by
    rw [hlast]
    exact List.mem_singleton.2 rfl
  have hone : y.outstanding = 1 := by
    rw [hy.count, hlast]
    rfl
  obtain ⟨z, cb, hr⟩ := Gate.exists_release? hp
  obtain ⟨-, -, -, -, -, hcase⟩ := Gate.release?_cases hy hr
  have hfires : cb = some (.run code) := by
    rcases hcase with ⟨-, -, -, -, rfl⟩ | ⟨hrun, -⟩
    · exact hcb
    · rw [hd] at hrun
      cases hrun hone
  unfold giveBack
  rw [hg]
  simp only [World.release, hr, hfires, fire, and_self]

/-- **When a callback runs.** After any run, at any gate:

* a callback with which the gate was closed while work was in flight waits there, or has run once, when
  the last permit came back, as long as the gate has not been closed or opened again;
* no callback runs but the last with which the gate was closed: one that was replaced while the gate
  drained never does;
* when the last permit is given back, a caller's callback is entered. -/
theorem callback_exact (moves : List Move) (g : GateId) :
    let m := run {} moves
    (∀ new cb old, m.world.story g = new ++ .closed g cb false :: old →
        (∀ o ∈ new, o.isSwitch = false) →
        ∃ x, m.world.gates g = some x ∧
          ((x.state = .draining ∧ 0 < x.outstanding ∧ x.callback = some cb ∧
              ∀ o ∈ new, o.isWork = true) ∨
            (x.state = .drained ∧ x.outstanding = 0 ∧
              ∃ p mid, new = .fired g cb :: .returned g p :: mid ∧ ∀ o ∈ mid, o.isWork = true))) ∧
      (∀ new cb old, m.world.story g = new ++ .fired g cb :: old →
        ∃ p mid rest, old = .returned g p :: mid ++ .closed g cb false :: rest ∧
          ∀ o ∈ mid, o.isWork = true) ∧
      (m.signal ≠ .aborted → ∀ op p x code, op.givesBack? = some (g, p) → m.world.gates g = some x →
        x.state = .draining → x.callback = some (.run code) → x.permits = [p] →
        (step m (.call op)).stack = .callback g code (.reply .done) :: m.stack ∧
          (step m (.call op)).signal = .entered) := by
  intro m
  have hs : m.world.Sound := run_sound moves
  have hp : Pledged g (m.world.gates g) (m.world.story g) := run_pledged moves g
  refine ⟨fun new cb old he hn => ?_, hp.fired, fun halive op p x code hop hg hd hcb hlast => ?_⟩
  · obtain ⟨x, hx, hk⟩ := hp.kept new cb old he hn
    have hsound := hs.gates g x hx
    refine ⟨x, hx, ?_⟩
    rcases hk with ⟨hd, hcb, hw⟩ | ⟨hd, hran⟩
    · exact .inl ⟨hd, (hsound.draining hd).1, hcb, hw⟩
    · exact .inr ⟨hd, (hsound.drained hd).1, hran⟩
  · have hstep : step m (.call op) = giveBack m.world m.stack g p := by
      unfold step
      rw [if_neg halive]
      exact perform_of_givesBack hop
    rw [hstep]
    exact giveBack_enters hg (hs.gates g x hg) hd hcb hlast

/-- A gate is closed and closed again before its permit comes back: the second callback waits there, and
is entered with the permit. -/
theorem callback_exact_closedAgain :
    let p : Permit := ⟨⟨⟨1, by decide⟩⟩, ⟨⟨0, by decide⟩⟩⟩
    let moves : List Move := [.call (.newGate p.gate "a"), .call (.acquire p.gate p.id),
      .call (.beginDrain p.gate ⟨0⟩), .call (.beginDrain p.gate ⟨1⟩)]
    let m := run {} moves
    (∃ old, m.world.story p.gate = [] ++ .closed p.gate (.run ⟨1⟩) false :: old) ∧
      (∃ x, m.world.gates p.gate = some x ∧ x.state = .draining ∧ 0 < x.outstanding ∧
        x.callback = some (.run ⟨1⟩)) ∧
      (step m (.call (.release p))).stack = [.callback p.gate ⟨1⟩ (.reply .done)] ∧
      (step m (.call (.release p))).signal = .entered := by
  intro p moves m
  have hstory : m.world.story p.gate = [] ++ .closed p.gate (.run ⟨1⟩) false ::
      [.closed p.gate (.run ⟨0⟩) false, .issued p.gate p.id] := by decide +kernel
  have hgate : m.world.gates p.gate = some
      { name := "a", state := .draining, outstanding := 1, permits := [p.id], callback := some (.run ⟨1⟩) } := by
    decide +kernel
  have halive : m.signal ≠ .aborted := by decide +kernel
  obtain ⟨hkept, -, henters⟩ := callback_exact moves p.gate
  have hlast := henters halive (.release p) p.id _ ⟨1⟩ rfl hgate rfl rfl rfl
  obtain ⟨x, hx, ⟨hd, hpos, hcb, -⟩ | ⟨-, -, q, mid, hran, -⟩⟩ := hkept [] _ _ hstory nofun
  · exact ⟨⟨_, hstory⟩, ⟨x, hx, hd, hpos, hcb⟩, hlast⟩
  · cases hran

/-- **A callback that was replaced never runs.** Work is in flight when the gate is closed twice, and both
callers are told that their callback will run. The gate is drained without ever being opened, and the
callback of the first has not run. -/
theorem callback_replaced :
    let p : Permit := ⟨⟨⟨1, by decide⟩⟩, ⟨⟨0, by decide⟩⟩⟩
    let m := run {} [.call (.newGate p.gate "a"), .call (.acquire p.gate p.id),
      .call (.beginDrain p.gate ⟨0⟩)]
    let m' := step m (.call (.beginDrain p.gate ⟨1⟩))
    let m'' := step m' (.call (.release p))
    m.signal = .replied (.flag false) ∧ m'.signal = .replied (.flag false) ∧
      m''.stack = [.callback p.gate ⟨1⟩ (.reply .done)] ∧
      (step m'' (.ret {})).world.gates p.gate = some { name := "a", state := .drained } ∧
      .reopened p.gate ∉ (step m'' (.ret {})).world.journal ∧
      .fired p.gate (.run ⟨0⟩) ∉ (step m'' (.ret {})).world.journal := by
  decide +kernel

end Machine

end Sluice
