import Sluice.Proofs.Monitor

/-!
# Callers that wait although an object is idle

A caller that finds no idle object reads the cap and the slots, and only then waits. Whoever gives an object back
wakes those who wait only if it finds all slots taken. So an object that is given back between the two readings of
a caller that is about to wait may be seen by neither, and if the slot that was free then is taken before the
caller looks, the caller waits while the object is idle.

* `Shared.Alarmed`: somebody is going to wake those who wait. `Shared.Heralded`: somebody is, if all slots are
  still taken.
* `Shared.Watched`: a caller waits only while no slot is free, and no object is idle but for one that has come in
  between, or else it is going to be woken. **Every move keeps this** (`step_watched`).
* `Shared.Overtaken`: an object has come in between. `run_watched`: so it is in every run.
* `stranded_exact`: **where nobody is under way, this is the only way in which a caller is stranded**.
  `stranded_idle`: and it happens.
-/

namespace Sluice.Pool

variable {α : Type}

namespace Place

/-- The caller is going to wake those who wait, if this is the cap. -/
def alerts (cap : Nat) : Place α → Bool
  | weighing previous _ => previous = cap
  | alerting _ | calling _ | waking _ => true
  | _ => false

/-- The caller has kept an object, and is going to wake those who wait if all slots are taken and this is the
cap. -/
def heralds (cap : Nat) : Place α → Bool
  | kept => true
  | keptUnder read => read = cap
  | _ => false

/-- The caller has found no idle object, and reads whether there is a slot. -/
def looks : Place α → Bool
  | rereading _ | comparing _ _ => true
  | _ => false

/-- The caller has found nothing, and waits or is about to. -/
def resigns : Place α → Bool
  | resigning _ | asleep _ => true
  | _ => false

end Place

@[simp] theorem Next.place_looks (next : Next α) : next.place.looks = false := by cases next <;> rfl

@[simp] theorem Next.place_resigns (next : Next α) : next.place.resigns = false := by cases next <;> rfl

namespace Shared

variable {m v : Shared α} {c d : CallerId} {p : Place α} {f : Place α → Bool} {o : Prop} {O O' : CallerId → Prop}
  {move : Move α} {moves : List (Move α)}

/-- Somebody is going to wake those who wait. -/
def Alarmed (m : Shared α) : Prop := ∃ c, m.flag (Place.alerts m.pool.maxInstances) c = true

/-- Somebody has kept an object, and is going to wake those who wait if all slots are taken. -/
def Heralded (m : Shared α) : Prop := ∃ c, m.flag (Place.heralds m.pool.maxInstances) c = true

/-- All slots are taken. -/
def Full (m : Shared α) : Prop := 0 < m.pool.maxInstances ∧ m.pool.maxInstances ≤ m.pool.instances

/-- What a caller that is about to wait, or waits, can rely on. For all it knows an object may have come in
between. -/
structure Watches (m : Shared α) (between : Prop) (c : CallerId) : Prop where
  cap : ∀ cap deadline, m.callers c = some (.comparing cap deadline) →
    0 < cap ∧ (m.pool.maxInstances = cap ∨ m.Alarmed)
  full : m.flag Place.resigns c = true → m.Full ∨ m.Alarmed
  looks : m.flag Place.looks c = true → m.pool.idle = [] ∨ between
  idle : m.flag Place.resigns c = true → m.pool.idle = [] ∨ m.Alarmed ∨ m.Heralded ∨ between

/-- All callers can rely on it. For some of them an object has come in between. -/
def Watched (m : Shared α) (O : CallerId → Prop) : Prop := ∀ c, m.Watches (O c) c

/-- Nothing is said of a caller that neither looks nor waits. -/
theorem watches_of_flag (hl : m.flag Place.looks c = false) (hr : m.flag Place.resigns c = false) :
    m.Watches o c where
  cap cap deadline hp := by
    rw [flag_of hp] at hl
    cases hl
  full h := by cases hr.symm.trans h
  looks h := by cases hl.symm.trans h
  idle h := by cases hr.symm.trans h

theorem Watches.mono {o' : Prop} (h : m.Watches o c)
    (ho : m.flag (fun p => p.looks || p.resigns) c = true → o → o') : m.Watches o' c where
  cap := h.cap
  full := h.full
  looks hl := (h.looks hl).imp_right (ho (by
    obtain ⟨p, hp, hf⟩ := flag_eq_true.1 hl
    rw [flag_of hp, hf]
    rfl))
  idle hr := (h.idle hr).imp_right (.imp_right (.imp_right (ho (by
    obtain ⟨p, hp, hf⟩ := flag_eq_true.1 hr
    rw [flag_of hp, hf, Bool.or_true]))))

/-! ## What others do -/

/-- Somebody is at such a place still, if the one that moves does not leave it. -/
theorem exists_flag_put (h : ∃ d, m.flag f d = true) (hv : v.callers = m.callers)
    (hp : m.flag f c = true → f p = true) : ∃ d, (v.put c p).flag f d = true := by
  obtain ⟨d, hd⟩ := h
  refine ⟨d, ?_⟩
  by_cases hdc : d = c
  · subst hdc
    rw [flag_put_self]
    exact hp hd
  · rw [flag_put_of_ne hdc]
    unfold flag at hd ⊢
    rw [hv]
    exact hd

/-- A move that neither changes the cap nor keeps an object, of a caller that does not give up to wake the others, and
is going to do so if it is the first to give a slot back. -/
structure Calm (m v : Shared α) (c : CallerId) (p : Place α) : Prop where
  callers : v.callers = m.callers
  cap : v.pool.maxInstances = m.pool.maxInstances
  full : m.Full → v.Full ∨ p.alerts m.pool.maxInstances = true
  idle : m.pool.idle = [] → v.pool.idle = []
  alerts : m.flag (Place.alerts m.pool.maxInstances) c = true → p.alerts m.pool.maxInstances = true
  heralds : m.flag (Place.heralds m.pool.maxInstances) c = true →
    p.heralds m.pool.maxInstances = true ∨ ¬ m.Full ∨ p.alerts m.pool.maxInstances = true

theorem Calm.alarmed (hc : m.Calm v c p) (h : m.Alarmed) : (v.put c p).Alarmed := by
  have hcap : (v.put c p).pool.maxInstances = m.pool.maxInstances := hc.cap
  unfold Alarmed at h ⊢
  rw [hcap]
  exact exists_flag_put h hc.callers hc.alerts

theorem Calm.noted (hc : m.Calm v c p) (hp : p.alerts m.pool.maxInstances = true) : (v.put c p).Alarmed := by
  have hcap : (v.put c p).pool.maxInstances = m.pool.maxInstances := hc.cap
  refine ⟨c, ?_⟩
  rw [hcap, flag_put_self]
  exact hp

theorem Calm.filled (hc : m.Calm v c p) (h : m.Full ∨ m.Alarmed) : (v.put c p).Full ∨ (v.put c p).Alarmed :=
  h.elim (fun hf => (hc.full hf).imp_right hc.noted) fun ha => .inr (hc.alarmed ha)

/-- An object that has been kept is still going to be told of. -/
theorem Calm.heralded (hc : m.Calm v c p) (h : m.Heralded) (hf : m.Full ∨ m.Alarmed) :
    (v.put c p).Alarmed ∨ (v.put c p).Heralded := by
  have hcap : (v.put c p).pool.maxInstances = m.pool.maxInstances := hc.cap
  rcases hf with hf | ha
  swap
  · exact .inl (hc.alarmed ha)
  by_cases hp : p.alerts m.pool.maxInstances = true
  · exact .inl (hc.noted hp)
  · refine .inr ?_
    unfold Heralded at h ⊢
    rw [hcap]
    refine exists_flag_put h hc.callers fun hk => ?_
    exact (hc.heralds hk).resolve_right fun ho => ho.elim (absurd hf) hp

/-- What a caller can rely on it can rely on afterwards, where it still looks or waits. -/
theorem Watches.calm (h : m.Watches o d) (hc : m.Calm v c p)
    (hcap : ∀ cap deadline, (v.put c p).callers d = some (.comparing cap deadline) →
      m.callers d = some (.comparing cap deadline))
    (hlooks : (v.put c p).flag Place.looks d = true → m.flag Place.looks d = true)
    (hresigns : (v.put c p).flag Place.resigns d = true → m.flag Place.resigns d = true) :
    (v.put c p).Watches o d where
  cap cap deadline hq := (h.cap cap deadline (hcap cap deadline hq)).imp_right (.imp hc.cap.trans hc.alarmed)
  full hr := hc.filled (h.full (hresigns hr))
  looks hl := (h.looks (hlooks hl)).imp_left hc.idle
  idle hr := by
    rcases h.idle (hresigns hr) with hi | ha | hk | ho
    · exact .inl (hc.idle hi)
    · exact .inr (.inl (hc.alarmed ha))
    · exact .inr ((hc.heralded hk (h.full (hresigns hr))).elim .inl fun hk => .inr (.inl hk))
    · exact .inr (.inr (.inr ho))

/-- **What others do** does not change what a caller can rely on, unless they free a slot, keep an object, change the
cap or wake those who wait. -/
theorem Watched.calm (h : m.Watched O) (hc : m.Calm v c p) (hown : (v.put c p).Watches (O c) c) :
    (v.put c p).Watched O := by
  intro d
  by_cases hd : d = c
  · exact hd ▸ hown
  have hplace : (v.put c p).callers d = m.callers d := by rw [put_of_ne hd, hc.callers]
  have hflag (f : Place α → Bool) : (v.put c p).flag f d = m.flag f d := by
    unfold flag
    rw [hplace]
  exact (h d).calm hc (fun _ _ hq => hplace ▸ hq) (fun hl => hflag _ ▸ hl) fun hr => hflag _ ▸ hr

/-- A caller goes on to where it neither looks nor waits. -/
theorem Watched.onward (h : m.Watched O) (hc : m.Calm v c p) (hl : p.looks = false) (hr : p.resigns = false) :
    (v.put c p).Watched O :=
  h.calm hc (watches_of_flag ((flag_put_self v c p).trans hl) ((flag_put_self v c p).trans hr))

/-- A caller that was about to wait, waits. -/
theorem Watched.wait (h : m.Watched O) (hc : m.Calm v c p) (hold : m.flag Place.resigns c = true)
    (hl : p.looks = false) : (v.put c p).Watched O := by
  refine h.calm hc ((h c).calm hc (fun cap deadline hq => ?_) (fun hq => ?_) fun _ => hold)
  · obtain rfl := Option.some.inj ((put_self v c p).symm.trans hq)
    cases hl
  · rw [flag_put_self, hl] at hq
    cases hq

/-- Nobody looks or waits. -/
theorem watched_of_flag (hn : ∀ d, m.flag Place.looks d = false ∧ m.flag Place.resigns d = false) :
    m.Watched O := fun d => watches_of_flag (hn d).1 (hn d).2

theorem Watched.mono (h : m.Watched O)
    (ho : ∀ d, m.flag (fun p => p.looks || p.resigns) d = true → O d → O' d) : m.Watched O' :=
  fun d => (h d).mono (ho d)

theorem Full.mono (h : m.Full) (hcap : v.pool.maxInstances = m.pool.maxInstances)
    (hi : m.pool.instances ≤ v.pool.instances) : v.Full := by
  unfold Full at h ⊢
  rw [hcap]
  exact ⟨h.1, h.2.trans hi⟩

/-- A caller that neither is going to wake the others nor has kept an object goes on. -/
theorem calm_of {q : Place α} (hp : m.callers c = some p) (ha : p.alerts m.pool.maxInstances = false)
    (hk : p.heralds m.pool.maxInstances = false) (hv : v.callers = m.callers)
    (hcap : v.pool.maxInstances = m.pool.maxInstances) (hi : m.pool.instances ≤ v.pool.instances)
    (hn : m.pool.idle = [] → v.pool.idle = []) : m.Calm v c q where
  callers := hv
  cap := hcap
  full hf := .inl (hf.mono hcap hi)
  idle := hn
  alerts hf := by
    rw [flag_of hp, ha] at hf
    cases hf
  heralds hf := by
    rw [flag_of hp, hk] at hf
    cases hf

/-! ## Nobody to wake -/

/-- Whoever looks or waits has counted itself. -/
theorem counts_of_searches (hp : p.looks = true ∨ p.resigns = true) : p.counts = true := by
  cases p <;> first | rfl | exact hp.elim nofun nofun

/-- If nobody has counted itself, nobody looks or waits. -/
theorem unwatched_of_waiters (hs : m.Sound) (hw : m.waiters = 0) (d : CallerId) :
    m.flag Place.looks d = false ∧ m.flag Place.resigns d = false := by
  have hcounts (f : Place α → Bool) (hf : ∀ p, f p = true → p.counts = true) : m.flag f d = false := by
    by_contra hn
    obtain ⟨p, hp, hfp⟩ := flag_eq_true.1 (Bool.not_eq_false _ ▸ hn)
    have hpos : 0 < m.waiters := Tally.pos hs.counted ((flag_of hp).trans (hf p hfp))
    omega
  exact ⟨hcounts _ fun p hp => counts_of_searches (.inl hp), hcounts _ fun p hp => counts_of_searches (.inr hp)⟩

/-- When all who wait have been woken by the holder of the monitor, nobody looks or waits. -/
theorem unwatched_rouseAll (hs : m.Sound) (hc : m.flag Place.holds c = true) {d : CallerId} (hd : d ≠ c) :
    m.rouseAll.flag Place.looks d = false ∧ m.rouseAll.flag Place.resigns d = false := by
  have hholds : m.flag Place.holds d = false := hs.monitored.alone hc hd
  have hr : m.rouseAll.callers d = (m.callers d).map rouse := rfl
  unfold flag at hholds ⊢
  rw [hr]
  cases hp : m.callers d with
  | none => exact ⟨rfl, rfl⟩
  | some p =>
    rw [hp] at hholds
    cases p <;> first | exact ⟨rfl, rfl⟩ | cases hholds

/-! ## Moves -/

section Moves

variable (h : m.Watched O)

include h

/-- A caller that neither is going to wake the others nor has kept an object goes on to where it neither looks nor
waits. -/
theorem Watched.next {q : Place α} (hp : m.callers c = some p) (ha : p.alerts m.pool.maxInstances = false)
    (hk : p.heralds m.pool.maxInstances = false) (hv : v.callers = m.callers)
    (hcap : v.pool.maxInstances = m.pool.maxInstances) (hi : m.pool.instances ≤ v.pool.instances)
    (hn : m.pool.idle = [] → v.pool.idle = []) (hl : q.looks = false) (hr : q.resigns = false) :
    (v.put c q).Watched O := h.onward (calm_of hp ha hk hv hcap hi hn) hl hr

/-- It goes on, and changes nothing else. -/
theorem Watched.turn {q : Place α} (hp : m.callers c = some p) (ha : p.alerts m.pool.maxInstances = false)
    (hk : p.heralds m.pool.maxInstances = false) (hl : q.looks = false) (hr : q.resigns = false) :
    (m.put c q).Watched O := h.next hp ha hk rfl rfl (Nat.le_refl _) id hl hr

/-- A caller goes on, changes nothing in the pool, and is still going to wake the others. -/
theorem Watched.pass {q : Place α} (hp : m.callers c = some p) (hv : v.callers = m.callers)
    (hpool : v.pool = m.pool) (ha : p.alerts m.pool.maxInstances = true → q.alerts m.pool.maxInstances = true)
    (hk : p.heralds m.pool.maxInstances = true →
      q.heralds m.pool.maxInstances = true ∨ ¬ m.Full ∨ q.alerts m.pool.maxInstances = true)
    (hl : q.looks = false) (hr : q.resigns = false) : (v.put c q).Watched O := by
  refine h.onward ⟨hv, by rw [hpool], fun hf => .inl ?_, fun hi => by rw [hpool, hi], ?_, ?_⟩ hl hr
  · exact hf.mono (by rw [hpool]) (by rw [hpool])
  · rw [flag_of hp]
    exact ha
  · rw [flag_of hp]
    exact hk

/-- A caller takes the monitor. -/
theorem Watched.lock {q : Place α} (hp : m.callers c = some p)
    (ha : p.alerts m.pool.maxInstances = true → q.alerts m.pool.maxInstances = true)
    (hk : p.heralds m.pool.maxInstances = false) (hl : q.looks = false) (hr : q.resigns = false) :
    (m.lock c q).Watched O := by
  unfold Shared.lock
  split
  · exact h.pass hp rfl rfl ha (fun hf => by cases hk.symm.trans hf) hl hr
  · exact h

/-- A caller has found no idle object: nobody has put one there since. -/
theorem Watched.retaking {deadline : Option Nat} (hp : m.callers c = some (.retaking deadline)) :
    (m.go c (.retaking deadline)).Watched O := by
  simp only [Shared.go]
  split
  · rename_i obj rest hi
    exact h.next hp rfl rfl rfl rfl (Nat.le_refl _) (fun hn => by simp [hi] at hn) rfl rfl
  · rename_i hi
    refine h.calm (calm_of hp rfl rfl rfl rfl (Nat.le_refl _) id) ?_
    refine ⟨fun cap deadline hq => ?_, fun hq => ?_, fun _ => .inl hi, fun hq => ?_⟩
    · cases (put_self m c _).symm.trans hq
    · cases (flag_put_self m c _).symm.trans hq
    · cases (flag_put_self m c _).symm.trans hq

/-- A caller reads the cap, and has found no idle object before. -/
theorem Watched.rereading {deadline : Option Nat} (hp : m.callers c = some (.rereading deadline)) :
    (m.go c (.rereading deadline)).Watched O := by
  simp only [Shared.go]
  split
  · exact h.turn hp rfl rfl rfl rfl
  · rename_i hmax
    refine h.calm (calm_of hp rfl rfl rfl rfl (Nat.le_refl _) id) ?_
    refine ⟨fun cap deadline hq => ?_, fun hq => ?_, fun _ => (h c).looks (flag_of hp), fun hq => ?_⟩
    · cases (put_self m c _).symm.trans hq
      exact ⟨Nat.pos_of_ne_zero hmax, .inl rfl⟩
    · cases (flag_put_self m c _).symm.trans hq
    · cases (flag_put_self m c _).symm.trans hq

/-- **A caller finds no slot under the cap that it has read.** If it is not the cap any more, it is going to be
woken. -/
theorem Watched.comparing {cap : Nat} {deadline : Option Nat}
    (hp : m.callers c = some (.comparing cap deadline)) : (m.go c (.comparing cap deadline)).Watched O := by
  simp only [Shared.go]
  split
  · exact h.turn hp rfl rfl rfl rfl
  · rename_i hn
    have hcalm : m.Calm m c (.resigning deadline) := calm_of hp rfl rfl rfl rfl (Nat.le_refl _) id
    obtain ⟨hpos, hcap⟩ := (h c).cap cap deadline hp
    refine h.calm hcalm ⟨fun cap deadline hq => ?_, fun _ => ?_, fun hq => ?_, fun _ => ?_⟩
    · cases (put_self m c _).symm.trans hq
    · have hfull : m.pool.maxInstances = cap → m.Full := fun he => ⟨he ▸ hpos, he ▸ Nat.not_lt.1 hn⟩
      exact hcalm.filled (hcap.imp_left hfull)
    · cases (flag_put_self m c _).symm.trans hq
    · exact ((h c).looks (flag_of hp)).imp_right fun ho => .inr (.inr ho)

/-- A caller waits, or gives up. -/
theorem Watched.resigning {deadline : Option Nat} (hp : m.callers c = some (.resigning deadline)) :
    (m.go c (.resigning deadline)).Watched O := by
  have hwait : (m.unlock c (.asleep deadline)).Watched O :=
    h.wait (calm_of hp rfl rfl rfl rfl (Nat.le_refl _) id) (flag_of hp) rfl
  simp only [Shared.go]
  split
  · exact hwait
  · split
    · exact h.turn hp rfl rfl rfl rfl
    · exact hwait

/-- **A slot is given back.** If all were taken, whoever gives it back is going to wake the others. -/
theorem Watched.freeing {next : Next α} (hp : m.callers c = some (.freeing next)) :
    (m.go c (.freeing next)).Watched O := by
  simp only [Shared.go]
  split
  · exact h.next hp rfl rfl rfl rfl (Nat.le_refl _) id next.place_looks next.place_resigns
  · refine h.onward ⟨rfl, rfl, fun hf => ?_, id, fun hf => ?_, fun hf => ?_⟩ rfl rfl
    · by_cases he : m.pool.instances = m.pool.maxInstances
      · exact .inr (decide_eq_true he)
      · have hle := hf.2
        exact .inl ⟨hf.1, show m.pool.maxInstances ≤ m.pool.instances - 1 by omega⟩
    · cases (flag_of hp).symm.trans hf
    · cases (flag_of hp).symm.trans hf

/-- Whoever has kept an object reads the cap. -/
theorem Watched.kept (hp : m.callers c = some .kept) : (m.go c .kept).Watched O := by
  simp only [Shared.go]
  split
  · rename_i hmax
    refine h.pass hp rfl rfl (fun hf => by cases hf) (fun _ => .inr (.inl fun hf => ?_)) rfl rfl
    exact absurd hf.1 (by omega)
  · exact h.pass hp rfl rfl (fun hf => by cases hf) (fun _ => .inl (decide_eq_true rfl)) rfl rfl

/-- **Whoever has kept an object wakes the others**, if all slots are taken. -/
theorem Watched.keptUnder {cap : Nat} (hp : m.callers c = some (.keptUnder cap)) :
    (m.go c (.keptUnder cap)).Watched O := by
  simp only [Shared.go]
  split
  · exact h.pass hp rfl rfl (fun hf => by cases hf) (fun _ => .inr (.inr rfl)) rfl rfl
  · rename_i hn
    refine h.pass hp rfl rfl (fun hf => by cases hf) (fun hf => .inr (.inl fun hfull => ?_)) rfl rfl
    have hcap : cap = m.pool.maxInstances := of_decide_eq_true hf
    exact hn (hcap ▸ hfull.2)

/-- Whoever has given a slot back wakes the others, if all were taken. -/
theorem Watched.weighing {previous : Nat} {next : Next α} (hp : m.callers c = some (.weighing previous next)) :
    (m.go c (.weighing previous next)).Watched O := by
  simp only [Shared.go]
  split
  · exact h.pass hp rfl rfl (fun _ => rfl) (fun hf => by cases hf) rfl rfl
  · rename_i hn
    exact h.pass hp rfl rfl (fun hf => absurd (of_decide_eq_true hf) hn) (fun hf => by cases hf) next.place_looks
      next.place_resigns

/-- **The cap is changed.** Whoever changes it is going to wake the others. -/
theorem Watched.capping {n : Nat} (hp : m.callers c = some (.capping n)) :
    (m.go c (.capping n)).Watched O := by
  simp only [Shared.go]
  split
  · rename_i he
    exact h.next hp rfl rfl rfl he.symm (Nat.le_refl _) id rfl rfl
  · have halarmed : ({ m with pool := { m.pool with maxInstances := n } }.put c
        (.alerting (.done .done))).Alarmed := ⟨c, flag_put_self _ _ _⟩
    intro d
    by_cases hd : d = c
    · subst hd
      exact watches_of_flag (flag_put_self _ _ _) (flag_put_self _ _ _)
    refine ⟨fun cap deadline hq => ?_, fun _ => .inr halarmed, fun hl => ?_, fun _ => .inr (.inl halarmed)⟩
    · exact ⟨((h d).cap cap deadline ((put_of_ne hd).symm.trans hq)).1, .inr halarmed⟩
    · exact (h d).looks ((flag_put_of_ne hd).symm.trans hl)

/-- **An object is kept.** Those who wait are going to be told of it. It has come in between for those who have
looked for one already. -/
theorem Watched.pushing {obj : α} (hp : m.callers c = some (.pushing obj)) :
    (m.go c (.pushing obj)).Watched fun d => O d ∨ m.flag Place.looks d = true ∧
      m.pool.idle.length < (m.go c (.pushing obj)).pool.idle.length := by
  simp only [Shared.go]
  split
  swap
  · exact (h.turn hp rfl rfl rfl rfl).mono fun d _ ho => .inl ho
  have hgrown : m.pool.idle.length < (m.pool.idle ++ [obj]).length := by simp
  intro d
  by_cases hd : d = c
  · subst hd
    exact watches_of_flag (flag_put_self _ _ _) (flag_put_self _ _ _)
  have halarmed (v : Shared α) (hv : v.callers = m.callers)
      (hcap : v.pool.maxInstances = m.pool.maxInstances) (ha : m.Alarmed) : (v.put c .kept).Alarmed := by
    have hput : (v.put c .kept).pool.maxInstances = m.pool.maxInstances := hcap
    unfold Alarmed at ha ⊢
    rw [hput]
    exact exists_flag_put ha hv fun hf => by cases (flag_of hp).symm.trans hf
  refine ⟨fun cap deadline hq => ?_, fun hr => ?_, fun hl => .inr (.inr ⟨?_, hgrown⟩), fun _ => ?_⟩
  · exact ((h d).cap cap deadline ((put_of_ne hd).symm.trans hq)).imp_right (.imp id (halarmed _ rfl rfl))
  · exact ((h d).full ((flag_put_of_ne hd).symm.trans hr)).imp id (halarmed _ rfl rfl)
  · exact (flag_put_of_ne hd).symm.trans hl
  · exact .inr (.inr (.inl ⟨c, flag_put_self _ _ _⟩))

/-- If there is nobody to wake, nobody looks or waits. -/
theorem Watched.alerting (hs : m.Sound) {next : Next α} (hp : m.callers c = some (.alerting next)) :
    (m.go c (.alerting next)).Watched O := by
  simp only [Shared.go]
  split
  · rename_i hw
    refine watched_of_flag fun d => ?_
    by_cases hd : d = c
    · subst hd
      rw [flag_put_self, flag_put_self]
      exact ⟨next.place_looks, next.place_resigns⟩
    · rw [flag_put_of_ne hd, flag_put_of_ne hd]
      exact unwatched_of_waiters hs hw d
  · exact h.pass hp rfl rfl (fun _ => rfl) (fun hf => by cases hf) rfl rfl

/-- **An access.** -/
theorem Watched.go (hs : m.Sound) (hp : m.callers c = some p) (hne : ∀ obj, p ≠ .pushing obj) :
    (m.go c p).Watched O := by
  cases p with
  | pushing obj => exact absurd rfl (hne obj)
  | retaking deadline => exact h.retaking hp
  | rereading deadline => exact h.rereading hp
  | comparing cap deadline => exact h.comparing hp
  | resigning deadline => exact h.resigning hp
  | freeing next => exact h.freeing hp
  | weighing previous next => exact h.weighing hp
  | alerting next => exact h.alerting hs hp
  | kept => exact h.kept hp
  | keptUnder cap => exact h.keptUnder hp
  | capping n => exact h.capping hp
  | locking deadline | relocking deadline => exact h.lock hp (fun hf => by cases hf) rfl rfl rfl
  | calling next => exact h.lock hp (fun _ => rfl) rfl rfl rfl
  | waking next =>
    refine watched_of_flag fun d => ?_
    by_cases hd : d = c
    · subst hd
      exact ⟨flag_put_self _ _ _, flag_put_self _ _ _⟩
    · have hgo (f : Place α → Bool) : (m.go c (.waking next)).flag f d = m.rouseAll.flag f d := flag_put_of_ne hd
      rw [hgo, hgo]
      exact unwatched_rouseAll hs (flag_of hp) hd
  | unlocking r deadline =>
    exact h.next hp rfl rfl rfl rfl (Nat.le_refl _) id (by cases r <;> rfl) (by cases r <;> rfl)
  | leaving next =>
    exact h.next hp rfl rfl rfl rfl (Nat.le_refl _) id next.place_looks next.place_resigns
  | raising cap deadline =>
    simp only [Shared.go]
    split
    · exact h.next hp rfl rfl rfl rfl (Nat.le_succ _) id rfl rfl
    · exact h.turn hp rfl rfl rfl rfl
  | _ =>
    simp only [Shared.go]
    repeat' split
    all_goals
      first
      | exact h
      | exact h.next hp rfl rfl rfl rfl (Nat.le_refl _) id rfl rfl
      | exact h.next hp rfl rfl rfl rfl (Nat.le_refl _) (fun hn => by simp_all) rfl rfl

/-- The factory has been at work for a caller. -/
theorem Watched.worked (c : CallerId) (w : Machine.Work α) : (m.worked c w).Watched O := by
  unfold Shared.worked
  split
  all_goals
    first
    | exact h
    | exact h.next ‹_› rfl rfl rfl rfl (Nat.le_refl _) id rfl rfl

/-- **A move.** For those who have looked already, an object has come in between if it is kept by this move. -/
theorem step_watched (hs : m.Sound) (move : Move α) : (m.step move).Watched fun d =>
    O d ∨ m.flag Place.looks d = true ∧ m.pool.idle.length < (m.step move).pool.idle.length := by
  have hsame (hn : (m.step move).Watched O) := hn.mono fun d _ (ho : O d) =>
    (.inl ho : O d ∨ m.flag Place.looks d = true ∧ m.pool.idle.length < (m.step move).pool.idle.length)
  cases move with
  | call c k =>
    refine hsame ?_
    simp only [step]
    split
    · rename_i hf
      refine h.onward ⟨rfl, rfl, .inl, id, fun ha => ?_, fun hk => ?_⟩ (by cases k <;> rfl) (by cases k <;> rfl)
      · cases (flag_of_free hf fun _ => rfl).symm.trans ha
      · cases (flag_of_free hf fun _ => rfl).symm.trans hk
    · exact h
  | access c =>
    cases hp : m.callers c with
    | none =>
      refine hsame ?_
      simp only [step, Shared.access, hp]
      exact h
    | some p =>
      have hgo : m.step (.access c) = m.go c p := by simp only [step, Shared.access, hp]
      rw [hgo] at hsame ⊢
      cases p with
      | pushing obj => exact h.pushing hp
      | _ => exact hsame (h.go hs hp fun obj he => by cases he)
  | rouse c =>
    refine hsame ?_
    simp only [step]
    split
    · exact h.turn ‹_› rfl rfl rfl rfl
    · exact h
  | worked c w => exact hsame (h.worked c w)
  | tick millis => exact hsame fun d => ⟨(h d).cap, (h d).full, (h d).looks, (h d).idle⟩

end Moves

/-! ## Runs -/

/-- **An object has come in between for a caller**: after it had found none idle, one has been put among the idle ones
at a move before it looked for a slot, and it has not looked for an object since. -/
def Overtaken (m : Shared α) (moves : List (Move α)) (c : CallerId) : Prop :=
  ∃ before move after, moves = before ++ move :: after ∧
    (m.run before).flag Place.looks c = true ∧
    (m.run before).pool.idle.length < (m.run (before ++ [move])).pool.idle.length ∧
    ∀ first, first <+: after →
      (m.run (before ++ move :: first)).flag (fun p => p.looks || p.resigns) c = true

theorem Overtaken.snoc (h : m.Overtaken moves c)
    (hc : (m.run (moves ++ [move])).flag (fun p => p.looks || p.resigns) c = true) :
    m.Overtaken (moves ++ [move]) c := by
  obtain ⟨before, between, after, rfl, hl, hi, ha⟩ := h
  refine ⟨before, between, after ++ [move], by simp, hl, hi, fun first hf => ?_⟩
  rcases List.prefix_concat_iff.1 hf with rfl | hf
  · simpa using hc
  · exact ha first hf

theorem overtaken_of (hl : (m.run moves).flag Place.looks c = true)
    (hi : (m.run moves).pool.idle.length < ((m.run moves).step move).pool.idle.length)
    (hc : (m.run (moves ++ [move])).flag (fun p => p.looks || p.resigns) c = true) :
    m.Overtaken (moves ++ [move]) c := by
  refine ⟨moves, move, [], rfl, hl, (run_snoc m moves move).symm ▸ hi, fun first hf => ?_⟩
  obtain rfl := List.prefix_nil.1 hf
  exact hc

/-- **In every run**, what a caller that is about to wait can rely on holds but for the objects that have come in
between. -/
theorem run_watched (hs : m.Sound) (h : m.Watched fun _ => False) (moves : List (Move α)) :
    (m.run moves).Watched (m.Overtaken moves) := by
  induction moves using List.reverseRecOn with
  | nil => exact h.mono fun _ _ => False.elim
  | append_singleton moves move ih =>
    rw [run_snoc]
    refine (step_watched ih (run_sound hs moves) move).mono fun d hd ho => ?_
    rw [← run_snoc] at hd
    exact ho.elim (fun ho => ho.snoc hd) fun ho => overtaken_of ho.1 ho.2 hd

/-! ## Rest -/

/-- Nobody is at a place where nobody rests. -/
theorem Quiescent.flag (hq : m.Quiescent) (hf : ∀ p, p.rests = true → f p = false) (c : CallerId) :
    m.flag f c = false := by
  by_contra hn
  obtain ⟨p, hp, hfp⟩ := flag_eq_true.1 (Bool.not_eq_false _ ▸ hn)
  cases (hf p (hq c p hp)).symm.trans hfp

theorem Quiescent.not_alarmed (hq : m.Quiescent) : ¬ m.Alarmed := by
  rintro ⟨c, hc⟩
  cases (hq.flag (fun p hp => by cases p <;> first | rfl | cases hp) c).symm.trans hc

theorem Quiescent.not_heralded (hq : m.Quiescent) : ¬ m.Heralded := by
  rintro ⟨c, hc⟩
  cases (hq.flag (fun p hp => by cases p <;> first | rfl | cases hp) c).symm.trans hc

/-- If nobody has made a call before these moves, it is enough to look at the callers that they are about. -/
theorem quiescent_of_movers (hm : ∀ c, m.callers c = none)
    (h : ∀ c ∈ moves.filterMap Move.caller?, (m.run moves).flag (fun p => !p.rests) c = false) :
    (m.run moves).Quiescent := by
  intro c p hp
  by_cases hc : c ∈ moves.filterMap Move.caller?
  · have hr := (flag_of hp).symm.trans (h c hc)
    simpa using hr
  · rw [run_absent (hm c) fun move hmove he => hc (List.mem_filterMap.2 ⟨move, hmove, he⟩)] at hp
    cases hp

/-- At rest no slot is given back for an object that is not removed yet. -/
theorem Quiescent.booked (hq : m.Quiescent) (h : m.Booked) :
    ∃ owing, Tally (m.flag Place.owes) owing ∧
      m.pool.instances + m.pool.removeCount = m.pool.createCount + m.underflows + owing := by
  obtain ⟨owing, ahead, howing, hahead, he⟩ := h
  have hzero : ahead = 0 := hahead.eq_zero (hq.flag fun p hp => by cases p <;> first | rfl | cases hp)
  refine ⟨owing, howing, ?_⟩
  unfold surplus at he
  omega

/-- **Whoever is stranded has been overtaken.** Between any accesses of any number of callers: while somebody is under
way, somebody makes an access. When nobody is, but for those that wait and those for which the factory is at work,
every slot is taken if anybody waits, and no object is idle unless one has come in between for whoever waits. And
the slots are those of the objects that have been made and not removed, and of the callers that have one while the
factory is at work for them: every other slot has been given back. -/
theorem stranded_exact (config : PoolConfig) (moves : List (Move α)) :
    let m := (ofConfig config : Shared α).run moves
    (¬ m.Quiescent → ∃ c, m.step (.access c) ≠ m) ∧
    (m.Quiescent →
      (∀ c deadline, m.callers c = some (.asleep deadline) →
        m.Full ∧ (m.pool.idle = [] ∨ (ofConfig config).Overtaken moves c)) ∧
      ∃ owing, Tally (m.flag Place.owes) owing ∧
        m.pool.instances + m.pool.removeCount = m.pool.createCount + m.underflows + owing) := by
  intro m
  have hsound : m.Sound := run_sound (sound_ofConfig config) moves
  refine ⟨stirs hsound.monitored, fun hq => ⟨fun c deadline hc => ?_, hq.booked hsound.booked⟩⟩
  have hwatched : m.Watched ((ofConfig config).Overtaken moves) :=
    run_watched (sound_ofConfig config) (watched_of_flag fun _ => ⟨rfl, rfl⟩) moves
  have hasleep : m.flag Place.resigns c = true := flag_of hc
  refine ⟨((hwatched c).full hasleep).resolve_right hq.not_alarmed, ?_⟩
  rcases (hwatched c).idle hasleep with hi | ha | hk | ho
  · exact .inl hi
  · exact absurd ha hq.not_alarmed
  · exact absurd hk hq.not_heralded
  · exact .inr ho

/-- A caller finds no idle object, and makes one. -/
def making (c : CallerId) (obj : Nat) : List (Move Nat) :=
  [.call c .get, .access c, .access c, .access c, .worked c (.made obj)]

/-- So many accesses of a caller. -/
def accesses (n : Nat) (c : CallerId) : List (Move Nat) := List.replicate n (.access c)

/-- How caller 0 is stranded. Callers 1 and 2 have taken both slots, and caller 0 has found neither an object nor a
slot. Before it has counted itself, caller 2 discards its object, and so wakes nobody. Caller 0 counts itself, and
finds no object again; nor does caller 3. Now caller 1 gives its object back, and wakes nobody, as a slot is free.
Caller 3 takes the slot, and caller 0 finds none. -/
def stranding : List (Move Nat) :=
  making ⟨1⟩ 0 ++ making ⟨2⟩ 1 ++ .call ⟨0⟩ .get :: accesses 3 ⟨0⟩ ++
    .call ⟨2⟩ (.discard 1) :: accesses 4 ⟨2⟩ ++ .worked ⟨2⟩ .destroyed :: accesses 3 ⟨0⟩ ++
    .call ⟨3⟩ .get :: accesses 1 ⟨3⟩ ++ .call ⟨1⟩ (.release 0) :: accesses 3 ⟨1⟩ ++
    accesses 2 ⟨3⟩ ++ .worked ⟨3⟩ (.made 2) :: accesses 3 ⟨0⟩

/-- A pool of two slots that keeps up to two idle objects and lets callers wait for ever. -/
def pair : PoolConfig := ⟨2, 2, 0⟩

theorem stranding_quiescent : ((ofConfig pair).run stranding).Quiescent :=
  quiescent_of_movers (fun _ => rfl) (by decide +kernel)

/-- Caller 0 waits for ever, an object is idle, and one has come in between for caller 0. -/
theorem stranded_exact_overtaken :
    let m := (ofConfig pair).run stranding
    m.Quiescent ∧ m.callers ⟨0⟩ = some (.asleep none) ∧ m.pool.idle = [0] ∧ (ofConfig pair).Overtaken stranding ⟨0⟩ ∧
      m.Full := by
  intro m
  have hasleep : m.callers ⟨0⟩ = some (.asleep none) := by decide +kernel
  have hidle : m.pool.idle = [0] := by decide +kernel
  obtain ⟨hfull, ho⟩ := ((stranded_exact pair stranding).2 stranding_quiescent).1 ⟨0⟩ none hasleep
  refine ⟨stranding_quiescent, hasleep, hidle, ho.resolve_left fun hn => ?_, hfull⟩
  cases hidle.symm.trans hn

/-- **A caller is stranded**: it is not so that no object is idle wherever a caller waits and nobody is under way. -/
theorem stranded_idle : ¬ ∀ (config : PoolConfig) (moves : List (Move Nat)) (c : CallerId) (deadline : Option Nat),
    ((ofConfig config).run moves).Quiescent →
      ((ofConfig config).run moves).callers c = some (.asleep deadline) →
      ((ofConfig config).run moves).pool.idle = [] := by
  intro h
  have hempty := h pair stranding ⟨0⟩ none stranding_quiescent (by decide +kernel)
  have hidle : ((ofConfig pair).run stranding).pool.idle = [0] := by decide +kernel
  cases hidle.symm.trans hempty

end Shared

end Sluice.Pool
