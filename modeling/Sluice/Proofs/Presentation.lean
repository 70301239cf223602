import Mathlib.Data.List.TakeWhile
import Sluice.Proofs.Grammar
import Sluice.Proofs.RoundTrip

/-!
# Records however they are presented

A record may be given as an object, with its fields in any order, with members that it does not know anywhere among
them, and without the fields that have their default; or as a list of its fields in order. Spaces and escapes do not
matter. All this is read as the same value.

* `Entry`: what is to be given for a field. `Lists`: the members of an object list the entries of a record.
* `Presents`: the texts that present a record, in either form.
* `Tells`: a text is read as a value wherever it stands, also after spaces.
* `Shows`: a schema reads the entries of a value, whichever of them it has read before. `members_of_membered`,
  `readFields_of_listed`: so it does with the members of an object and with the items of a list, one after another.
  `Shows.tells`: **every text that presents the record is read as it**.
* `presentation_exact`: the same of statuses, snapshots, settings and tickets.
-/

namespace Sluice.Json

variable {σ α : Type} {read : Read α} {a : α} {as : List α} {s text ws rest : List Char} {texts : List (List Char)}
  {first : Bool} {t : String} {n : Nat} {i : Int}

/-! ## What presents a value -/

/-- A string in any spelling. -/
inductive StringText (t : String) : List Char → Prop
  | mk {s : List Char} (h : Writes s t.toList) : StringText t ('"' :: (s ++ ['"']))

/-- A string, or `null` for none. -/
inductive OptionText : Option String → List Char → Prop
  | none : OptionText none ['n', 'u', 'l', 'l']
  | some {t : String} {text : List Char} (h : StringText t text) : OptionText (some t) text

/-- A list of values in order. -/
inductive ItemsText (Text : α → List Char → Prop) (as : List α) : List Char → Prop
  | mk {texts : List (List Char)} {body : List Char} (h : Listed true texts body) (ht : List.Forall₂ Text as texts) :
      ItemsText Text as ('[' :: body)

/-- What is to be given for a field of a record. -/
structure Entry where
  name : String
  /-- The texts of its value. -/
  Text : List Char → Prop
  /-- It may be left out. -/
  Optional : Prop

/-- These members list the entries of a record, in any order: each entry once, or not at all if it may be left out.
Members of other names may have any values. -/
structure Lists (es : List Entry) (ms : List (String × List Char)) : Prop where
  once : ∀ e ∈ es, (ms.map Prod.fst).count e.name ≤ 1
  given : ∀ e ∈ es, e.name ∈ ms.map Prod.fst ∨ e.Optional
  texts : ∀ e ∈ es, ∀ m ∈ ms, m.1 = e.name → e.Text m.2
  others : ∀ m ∈ ms, m.1 ∉ es.map Entry.name → Value m.2

/-- The texts of a record: an object that lists its entries, its keys in any spelling, or a list of all entries in
order. -/
inductive Presents (es : List Entry) : List Char → Prop
  | object {ms : List (String × List Char)} {body : List Char}
      (h : Membered (fun key name => Writes key name.toList) true ms body) (hl : Lists es ms) :
      Presents es ('\x7b' :: body)
  | list {texts : List (List Char)} {body : List Char} (h : Listed true texts body)
      (ht : List.Forall₂ Entry.Text es texts) : Presents es ('[' :: body)

/-! ## After spaces -/

/-- A text is read as a value wherever it stands, also after spaces. -/
structure Tells (read : Read α) (text : List Char) (a : α) : Prop where
  begins : Begins text
  spells : ∀ ws, Blank ws → Spells read (ws ++ text) a

/-- A reader takes no notice of spaces before what it reads. -/
def Patient (read : Read α) : Prop := ∀ ws s, Blank ws → read (ws ++ s) = read s

theorem skipSpace_append (h : Blank ws) (s : List Char) : skipSpace (ws ++ s) = skipSpace s := by
  unfold skipSpace
  rw [List.dropWhile_append_of_pos h]

theorem patient_string : Patient readString := by
  intro ws s h
  unfold readString
  rw [skipSpace_append h]

theorem patient_numeric (pick : Number → Option α) : Patient (readNumeric pick) := by
  intro ws s h
  unfold readNumeric
  rw [skipSpace_append h]

theorem patient_spelling (pick : String → Option α) : Patient (readSpelling pick) := by
  intro ws s h
  unfold readSpelling
  rw [patient_string ws s h]

theorem patient_case (pick : String → Option α) : Patient (readCase pick) := by
  intro ws s h
  unfold readCase
  rw [skipSpace_append h]

theorem patient_option : Patient (readOption read) := by
  intro ws s h
  unfold readOption
  rw [skipSpace_append h]

theorem patient_list : Patient (readList read) := by
  intro ws s h
  unfold readList
  rw [skipSpace_append h]

theorem patient_record (S : Schema σ α) : Patient S.readRecord := by
  intro ws s h
  unfold Schema.readRecord
  rw [skipSpace_append h]

theorem Patient.tells (hp : Patient read) (hb : Begins text) (hs : Spells read text a) : Tells read text a := by
  refine ⟨hb, fun ws hws rest hr => ?_⟩
  rw [List.append_assoc, hp ws _ hws]
  exact hs rest hr

theorem Tells.spells_self (h : Tells read text a) : Spells read text a := h.spells [] blank_nil

/-- **A text that tells a value is read as it**, with spaces around it. -/
theorem Tells.whole {ws' : List Char} (h : Tells read text a) (hws : Blank ws) (hws' : Blank ws') :
    whole read (ws ++ (text ++ ws')) = .ok a := by
  have hstops : Stops ws' := List.append_nil ws' ▸ stops_blank hws' stops_nil
  have hrest : skipSpace ws' = [] := List.dropWhile_eq_nil_iff.2 hws'
  unfold Json.whole
  rw [← List.append_assoc, h.spells ws hws ws' hstops]
  simp only [bind, Except.bind, hrest]
  rfl

/-! ## Plain values -/

theorem StringText.begins (h : StringText t text) : Begins text := by
  cases h
  exact ⟨_, _, rfl, by decide, by decide⟩

theorem StringText.spells (h : StringText t text) : Spells readString text t := by
  obtain ⟨h⟩ := h
  intro rest _
  unfold readString
  rw [List.cons_append, skipSpace_cons (by decide)]
  exact names_of_writes h rest

/-- **A string is read in any spelling.** -/
theorem StringText.tells (h : StringText t text) : Tells readString text t := patient_string.tells h.begins h.spells

theorem StringText.tells_spelling {pick : String → Option α} (h : StringText t text) (ha : pick t = some a) :
    Tells (readSpelling pick) text a := by
  refine (patient_spelling pick).tells h.begins fun rest hr => ?_
  unfold readSpelling
  rw [h.spells rest hr]
  simp only [bind, Except.bind, ha]
  rfl

theorem StringText.tells_case {pick : String → Option α} (h : StringText t text) (ha : pick t = some a) :
    Tells (readCase pick) text a := by
  refine (patient_case pick).tells h.begins fun rest hr => ?_
  have hread := (h.tells_spelling ha).spells_self rest hr
  cases h
  unfold readCase
  rw [List.cons_append, skipSpace_cons (by decide)]
  exact hread

theorem tells_natural (h : n < wordBound) : Tells readNat (naturalText n) n := by
  refine (patient_numeric _).tells ?_ (spells_natural h)
  obtain ⟨c, cs, hcs, hc⟩ := natural_eq_cons n
  rw [hcs]
  exact begins_of_isDigit hc cs

theorem tells_integer (hlow : -(signedBound : Int) ≤ i) (hhigh : i < signedBound) :
    Tells readInt (integerText i) i := by
  refine (patient_numeric _).tells ?_ (spells_integer hlow hhigh)
  cases i with
  | ofNat n =>
    obtain ⟨c, cs, hcs, hc⟩ := natural_eq_cons n
    show Begins (naturalText n)
    rw [hcs]
    exact begins_of_isDigit hc cs
  | negSucc n => exact ⟨_, _, rfl, by decide, by decide⟩

theorem OptionText.tells {o : Option String} (h : OptionText o text) : Tells (readOption readString) text o := by
  cases h with
  | none =>
    refine patient_option.tells ⟨_, _, rfl, by decide, by decide⟩ fun rest _ => ?_
    unfold readOption
    rw [List.cons_append, skipSpace_cons (by decide)]
    rfl
  | @some t _ h =>
    refine patient_option.tells h.begins fun rest hr => ?_
    have hread := h.spells rest hr
    cases h
    unfold readOption
    rw [List.cons_append] at hread ⊢
    rw [skipSpace_cons (by decide)]
    split
    · rename_i he
      exact absurd (List.cons.inj he).1 (by decide)
    · simp only [hread, bind, Except.bind]
      rfl

/-! ## Lists -/

theorem items_of_listed (h : Listed first texts text) (ht : List.Forall₂ (fun a t => Tells read t a) as texts) :
    Items read first text as := by
  induction h generalizing as with
  | close hb =>
    cases ht
    exact .close hb
  | item hg _ ih =>
    cases ht with
    | cons htell hrest => exact .item hg htell.begins htell.spells_self (ih hrest)

/-- **A list is read** if all texts of its items are. -/
theorem ItemsText.tells {Text : α → List Char → Prop} (h : ItemsText Text as text)
    (ht : ∀ a ∈ as, ∀ text, Text a text → Tells read text a) : Tells (readList read) text as := by
  obtain ⟨hlisted, hall⟩ := h
  refine patient_list.tells ⟨_, _, rfl, by decide, by decide⟩ (spells_items (items_of_listed hlisted ?_))
  clear hlisted
  induction hall with
  | nil => exact .nil
  | cons h _ ih =>
    obtain ⟨hfirst, hrest⟩ := List.forall_mem_cons.1 ht
    exact .cons (hfirst _ h) (ih hrest)

/-! ## Records -/

/-- A field takes an entry: it reads every text of it into a draft, and a draft without it lacks it. `draft` tells
what has been read once the entries of some names have. -/
structure Takes (draft : List String → σ) (f : Field σ) (e : Entry) : Prop where
  name : f.name = e.name
  lacks : ∀ seen, e.name ∉ seen → f.has (draft seen) = false
  tells : ∀ seen text, e.Text text → Tells (f.read (draft seen)) text (draft (e.name :: seen))

/-- The fields of a schema take the entries of a value, and together they make it. -/
structure Shows (S : Schema σ α) (es : List Entry) (draft : List String → σ) (a : α) : Prop where
  blank : S.blank = draft []
  takes : List.Forall₂ (Takes draft) S.fields es
  object : ∀ seen, (∀ e ∈ es, e.name ∈ seen ∨ e.Optional) → S.ofObject (draft seen) = some a
  list : ∀ seen, (∀ e ∈ es, e.name ∈ seen) → S.ofList (draft seen) = some a

variable {draft : List String → σ} {fields : List (Field σ)} {es : List Entry} {S : Schema σ α}

/-- A name is that of an entry, which the field of this name takes, or of none. -/
theorem find?_takes (h : List.Forall₂ (Takes draft) fields es) (name : String) :
    (∃ f e, fields.find? (fun f => f.name = name) = some f ∧ e ∈ es ∧ e.name = name ∧ Takes draft f e) ∨
      fields.find? (fun f => f.name = name) = none ∧ name ∉ es.map Entry.name := by
  induction h with
  | nil => exact .inr ⟨rfl, List.not_mem_nil⟩
  | @cons f e fields es ht _ ih =>
    by_cases hname : f.name = name
    · exact .inl ⟨f, e, List.find?_cons_of_pos (decide_eq_true hname), List.mem_cons_self, ht.name ▸ hname, ht⟩
    · rw [List.find?_cons_of_neg (by simpa using hname)]
      refine ih.imp (fun ⟨f', e', hf, he, hn, ht'⟩ => ⟨f', e', hf, List.mem_cons_of_mem e he, hn, ht'⟩)
        fun ⟨hf, hn⟩ => ⟨hf, ?_⟩
      rw [List.map_cons, List.mem_cons, not_or]
      exact ⟨fun he => hname (ht.name.trans he.symm), hn⟩

/-- **The members of an object are read**, each entry into the draft and the others over. -/
theorem members_of_membered (ht : List.Forall₂ (Takes draft) fields es) (seen : List String)
    {ms : List (String × List Char)} (h : Membered (fun key name => Writes key name.toList) first ms text)
    (honce : ∀ e ∈ es, (ms.map Prod.fst).count e.name ≤ 1)
    (hfresh : ∀ e ∈ es, e.name ∈ seen → e.name ∉ ms.map Prod.fst)
    (htexts : ∀ e ∈ es, ∀ m ∈ ms, m.1 = e.name → e.Text m.2)
    (hothers : ∀ m ∈ ms, m.1 ∉ es.map Entry.name → Value m.2) :
    ∃ seen', seen ⊆ seen' ∧ (∀ e ∈ es, e.name ∈ ms.map Prod.fst → e.name ∈ seen') ∧
      Members fields first (draft seen) text (draft seen') := by
  induction h generalizing seen with
  | close hb => exact ⟨seen, List.Subset.refl seen, nofun, .close hb⟩
  | @member first gap key ws ws' text more name ms hg hk hws hws' h ih =>
    have hrest : ∀ e ∈ es, (ms.map Prod.fst).count e.name ≤ 1 := fun e he =>
      (List.count_le_count_cons).trans (honce e he)
    have htexts' : ∀ e ∈ es, ∀ m ∈ ms, m.1 = e.name → e.Text m.2 := fun e he m hm =>
      htexts e he m (List.mem_cons_of_mem _ hm)
    have hothers' : ∀ m ∈ ms, m.1 ∉ es.map Entry.name → Value m.2 := fun m hm =>
      hothers m (List.mem_cons_of_mem _ hm)
    have hnames := names_of_writes hk
    have hlayout : gap ++ '"' :: (key ++ '"' :: (ws ++ ':' :: (ws' ++ (text ++ more)))) =
        gap ++ '"' :: ((key ++ ['"']) ++ (ws ++ ':' :: ((ws' ++ text) ++ more))) := by simp
    rw [hlayout]
    rcases find?_takes ht name with ⟨f, e, hf, he, rfl, htake⟩ | ⟨hf, hnew⟩
    · -- an entry that has not been read yet
      have hlacks : e.name ∉ seen := fun hs => hfresh e he hs List.mem_cons_self
      have hlast : e.name ∉ ms.map Prod.fst := fun hm => by
        have hcount := honce e he
        rw [List.map_cons, List.count_cons_self] at hcount
        have := List.count_pos_iff.2 hm
        omega
      have hfresh' : ∀ e' ∈ es, e'.name ∈ e.name :: seen → e'.name ∉ ms.map Prod.fst := by
        intro e' he' hs
        rcases List.mem_cons.1 hs with hs | hs
        · rwa [hs]
        · exact fun hm => hfresh e' he' hs (List.mem_cons_of_mem _ hm)
      obtain ⟨seen', hsub, hall, hmembers⟩ := ih (e.name :: seen) hrest hfresh' htexts' hothers'
      have htell := htake.tells seen text (htexts e he _ List.mem_cons_self rfl)
      refine ⟨seen', fun x hx => hsub (List.mem_cons_of_mem _ hx), fun e' he' hm => ?_,
        .field hg hnames hws hf (htake.lacks seen hlacks) (htell.spells ws' hws') hmembers⟩
      rcases List.mem_cons.1 hm with hm | hm
      · exact hsub (hm ▸ List.mem_cons_self)
      · exact hall e' he' hm
    · -- a member of no entry
      have hfresh' : ∀ e ∈ es, e.name ∈ seen → e.name ∉ ms.map Prod.fst := fun e he hs hm =>
        hfresh e he hs (List.mem_cons_of_mem _ hm)
      obtain ⟨seen', hsub, hall, hmembers⟩ := ih seen hrest hfresh' htexts' hothers'
      have hvalue : Value text := hothers _ List.mem_cons_self hnew
      refine ⟨seen', hsub, fun e he hm => ?_, .other hg hnames hws hf (hvalue.passes.blank hws').skips hmembers⟩
      rcases List.mem_cons.1 hm with hm | hm
      · exact absurd (List.mem_map.2 ⟨e, he, hm⟩) hnew
      · exact hall e he hm

/-- **The items of a list are read**, each into the field in its place. -/
theorem readFields_of_listed (ht : List.Forall₂ (Takes draft) fields es) (seen : List String)
    (h : Listed first texts text) (htexts : List.Forall₂ Entry.Text es texts) (rest : List Char) :
    ∃ seen', seen ⊆ seen' ∧ (∀ e ∈ es, e.name ∈ seen') ∧
      Schema.readFields fields first (draft seen) (text ++ rest) = .ok (draft seen', rest) := by
  induction ht generalizing first texts text seen with
  | nil =>
    cases htexts
    cases h with
    | close hb =>
      refine ⟨seen, List.Subset.refl seen, nofun, ?_⟩
      rw [Schema.readFields, List.append_assoc, List.singleton_append, skipSpace_blank hb (by decide)]
      rfl
  | @cons f e fields es htake _ ih =>
    cases htexts with
    | @cons _ t _ ts htext hrest =>
      cases h with
      | @item _ gap _ more _ hg h =>
        have htell := htake.tells seen t htext
        obtain ⟨seen', hsub, hall, hread⟩ := ih (e.name :: seen) h hrest
        refine ⟨seen', fun x hx => hsub (List.mem_cons_of_mem _ hx),
          List.forall_mem_cons.2 ⟨hsub List.mem_cons_self, hall⟩, ?_⟩
        rw [Schema.readFields, List.append_assoc, List.append_assoc, nextItem_item hg htell.begins]
        simp only [bind, Except.bind, htell.spells_self _ (h.stops rest), hread]

/-- **Every text that presents a record is read as it.** -/
theorem Shows.tells (hS : Shows S es draft a) (h : Presents es text) : Tells S.readRecord text a := by
  cases h with
  | @object ms body h hl =>
    obtain ⟨seen, -, hall, hmembers⟩ := members_of_membered hS.takes [] h hl.once (fun _ _ h => by cases h) hl.texts
      hl.others
    rw [← hS.blank] at hmembers
    refine (patient_record S).tells ⟨_, _, rfl, by decide, by decide⟩ (spells_members hmembers (hS.object seen ?_))
    exact fun e he => (hl.given e he).imp_left (hall e he)
  | @list texts body h ht =>
    refine (patient_record S).tells ⟨_, _, rfl, by decide, by decide⟩ fun rest _ => ?_
    obtain ⟨seen, -, hall, hread⟩ := readFields_of_listed hS.takes [] h ht rest
    rw [← hS.blank] at hread
    unfold Schema.readRecord
    rw [List.cons_append, skipSpace_cons (by decide)]
    simp only [bind, Except.bind, hread, Schema.finish, hS.list seen hall]

/-! ## What has been read -/

/-- The value of a field, once it has been read. -/
def once (seen : List String) (name : String) (x : α) : Option α := if name ∈ seen then some x else none

theorem once_of_mem {seen : List String} {name : String} (h : name ∈ seen) (x : α) : once seen name x = some x :=
  if_pos h

/-- A field that need not be read is its default. -/
theorem once_getD {seen : List String} {name : String} {x y : α} (h : name ∈ seen ∨ x = y) :
    (once seen name x).getD y = x := by
  unfold once
  split
  · rfl
  · rename_i hs
    exact (h.resolve_left hs).symm

/-- A field that puts what it reads into the draft takes an entry. -/
theorem takes_put {name : String} {Text : List Char → Prop} {Optional : Prop} {has : σ → Bool}
    (put : σ → α → σ) (a : α) (hlacks : ∀ seen, name ∉ seen → has (draft seen) = false)
    (hput : ∀ seen, put (draft seen) a = draft (name :: seen)) (ht : ∀ text, Text text → Tells read text a) :
    Takes draft ⟨name, has, fun d s => do
      let (x, rest) ← read s
      pure (put d x, rest)⟩ ⟨name, Text, Optional⟩ := by
  refine ⟨rfl, hlacks, fun seen text h => ⟨(ht text h).begins, fun ws hws => ?_⟩⟩
  have hspells := spells_put ((ht text h).spells ws hws) (put (draft seen))
  rwa [hput] at hspells

end Sluice.Json

namespace Sluice

open Json

/-! ## Statuses -/

namespace GateStatus

/-- What is to be given for a status: all of it. -/
def entries (g : GateStatus) : List Entry := [
  ⟨"name", StringText g.name, False⟩,
  ⟨"state", StringText g.state.name, False⟩,
  ⟨"outstanding", (· = integerText g.outstanding), False⟩]

/-- A status of which the fields of some names have been read. -/
def draft (g : GateStatus) (seen : List String) : Draft where
  name := once seen "name" g.name
  state := once seen "state" g.state
  outstanding := once seen "outstanding" g.outstanding

theorem complete_draft (g : GateStatus) {seen : List String} (hname : "name" ∈ seen) (hstate : "state" ∈ seen)
    (houtstanding : "outstanding" ∈ seen) : (g.draft seen).complete = some g := by
  simp only [draft, once_of_mem hname, once_of_mem hstate, once_of_mem houtstanding]
  rfl

theorem shows {g : GateStatus} (h : g.Fits) : Shows schema g.entries g.draft g where
  blank := rfl
  takes :=
    .cons (takes_put (fun d x => ({ d with name := some x } : Draft)) g.name (fun _ h => by simp [draft, once, h])
        (fun _ => by simp [draft, once]) fun _ h => h.tells)
      (.cons (takes_put (fun d x => ({ d with state := some x } : Draft)) g.state
          (fun _ h => by simp [draft, once, h]) (fun _ => by simp [draft, once])
          fun _ h => h.tells_case (by cases g.state <;> rfl))
        (.cons (takes_put (fun d x => ({ d with outstanding := some x } : Draft)) g.outstanding
            (fun _ h => by simp [draft, once, h]) (fun _ => by simp [draft, once])
            (by rintro _ rfl; exact tells_integer h.1 h.2))
          .nil))
  object seen hseen := by
    simp only [entries, List.forall_mem_cons, or_false] at hseen
    exact complete_draft g hseen.1 hseen.2.1 hseen.2.2.1
  list seen hseen := by
    simp only [entries, List.forall_mem_cons] at hseen
    exact complete_draft g hseen.1 hseen.2.1 hseen.2.2.1

/-- **A status is read however it is presented.** -/
theorem tells {g : GateStatus} {text : List Char} (h : g.Fits) (ht : Presents g.entries text) :
    Tells GateStatus.read text g := (shows h).tells ht

end GateStatus

/-! ## Snapshots -/

namespace Snapshot

/-- What is to be given for a snapshot. A time that it does not have is `null`, or left out; so is an empty list of
pending gates. -/
def entries (s : Snapshot) : List Entry := [
  ⟨"state", StringText s.state.name, False⟩,
  ⟨"generation", (· = naturalText s.generation), False⟩,
  ⟨"suspended_at", OptionText s.suspendedAt, s.suspendedAt = none⟩,
  ⟨"gates", ItemsText (fun g => Presents g.entries) s.gates, False⟩,
  ⟨"pending", ItemsText StringText s.pending, s.pending = []⟩]

/-- A snapshot of which the fields of some names have been read. -/
def draft (s : Snapshot) (seen : List String) : Draft where
  state := once seen "state" s.state
  generation := once seen "generation" s.generation
  suspendedAt := once seen "suspended_at" s.suspendedAt
  gates := once seen "gates" s.gates
  pending := once seen "pending" s.pending

theorem complete_draft (s : Snapshot) {seen : List String} (hstate : "state" ∈ seen)
    (hgeneration : "generation" ∈ seen) (hgates : "gates" ∈ seen)
    (hpending : "pending" ∈ seen ∨ s.pending = []) :
    ({ s.draft seen with suspendedAt := some s.suspendedAt } : Draft).complete = some s := by
  simp only [draft, once_of_mem hstate, once_of_mem hgeneration, once_of_mem hgates, Draft.complete,
    once_getD hpending]
  rfl

theorem shows {s : Snapshot} (h : s.Fits) : Shows schema s.entries s.draft s where
  blank := rfl
  takes :=
    .cons (takes_put (fun d x => ({ d with state := some x } : Draft)) s.state (fun _ h => by simp [draft, once, h])
        (fun _ => by simp [draft, once]) fun _ h => h.tells_case (by cases s.state <;> rfl))
      (.cons (takes_put (fun d x => ({ d with generation := some x } : Draft)) s.generation
          (fun _ h => by simp [draft, once, h]) (fun _ => by simp [draft, once])
          (by rintro _ rfl; exact tells_natural h.generation))
        (.cons (takes_put (fun d x => ({ d with suspendedAt := some x } : Draft)) s.suspendedAt
            (fun _ h => by simp [draft, once, h]) (fun _ => by simp [draft, once]) fun _ h => h.tells)
          (.cons (takes_put (fun d x => ({ d with gates := some x } : Draft)) s.gates
              (fun _ h => by simp [draft, once, h]) (fun _ => by simp [draft, once])
              fun _ ht => ht.tells fun g hg _ htext => GateStatus.tells (h.gates g hg) htext)
            (.cons (takes_put (fun d x => ({ d with pending := some x } : Draft)) s.pending
                (fun _ h => by simp [draft, once, h]) (fun _ => by simp [draft, once])
                fun _ ht => ht.tells fun _ _ _ htext => htext.tells)
              .nil))))
  object seen hseen := by
    simp only [entries, List.forall_mem_cons, or_false] at hseen
    obtain ⟨hstate, hgeneration, htime, hgates, hpending, -⟩ := hseen
    have htime : (s.draft seen).suspendedAt.getD none = s.suspendedAt := once_getD htime
    simp only [schema, htime]
    exact complete_draft s hstate hgeneration hgates hpending
  list seen hseen := by
    simp only [entries, List.forall_mem_cons] at hseen
    obtain ⟨hstate, hgeneration, htime, hgates, hpending, -⟩ := hseen
    have htime : some s.suspendedAt = (s.draft seen).suspendedAt := (once_of_mem htime _).symm
    have hcomplete := complete_draft s hstate hgeneration hgates (.inl hpending)
    rwa [htime] at hcomplete

end Snapshot

/-! ## Settings -/

namespace PoolConfig

/-- What is to be given for settings: a field that is zero may be left out. -/
def entries (c : PoolConfig) : List Entry := [
  ⟨"max_instances", (· = naturalText c.maxInstances), c.maxInstances = 0⟩,
  ⟨"pool_size", (· = naturalText c.poolSize), c.poolSize = 0⟩,
  ⟨"timeout_millis", (· = naturalText c.timeoutMillis), c.timeoutMillis = 0⟩]

/-- Settings of which the fields of some names have been read. -/
def draft (c : PoolConfig) (seen : List String) : Draft where
  maxInstances := once seen "max_instances" c.maxInstances
  poolSize := once seen "pool_size" c.poolSize
  timeoutMillis := once seen "timeout_millis" c.timeoutMillis

theorem complete_draft (c : PoolConfig) {seen : List String} (hmax : "max_instances" ∈ seen ∨ c.maxInstances = 0)
    (hsize : "pool_size" ∈ seen ∨ c.poolSize = 0) (htimeout : "timeout_millis" ∈ seen ∨ c.timeoutMillis = 0) :
    (c.draft seen).complete = c := by
  simp only [draft, Draft.complete, once_getD hmax, once_getD hsize, once_getD htimeout]

theorem shows {c : PoolConfig} (h : c.Fits) : Shows schema c.entries c.draft c where
  blank := rfl
  takes :=
    .cons (takes_put (fun d x => ({ d with maxInstances := some x } : Draft)) c.maxInstances
        (fun _ h => by simp [draft, once, h]) (fun _ => by simp [draft, once])
        (by rintro _ rfl; exact tells_natural h.maxInstances))
      (.cons (takes_put (fun d x => ({ d with poolSize := some x } : Draft)) c.poolSize
          (fun _ h => by simp [draft, once, h]) (fun _ => by simp [draft, once])
          (by rintro _ rfl; exact tells_natural h.poolSize))
        (.cons (takes_put (fun d x => ({ d with timeoutMillis := some x } : Draft)) c.timeoutMillis
            (fun _ h => by simp [draft, once, h]) (fun _ => by simp [draft, once])
            (by rintro _ rfl; exact tells_natural h.timeoutMillis))
          .nil))
  object seen hseen := by
    simp only [entries, List.forall_mem_cons] at hseen
    exact congrArg some (complete_draft c hseen.1 hseen.2.1 hseen.2.2.1)
  list seen hseen := by
    simp only [entries, List.forall_mem_cons] at hseen
    exact congrArg some (complete_draft c (.inl hseen.1) (.inl hseen.2.1) (.inl hseen.2.2.1))

end PoolConfig

/-! ## Tickets -/

/-- An identifier as a string, in any of its spellings. -/
inductive Uuid.Text (u : Uuid) : List Char → Prop
  | mk {t : String} {text : List Char} (hu : Uuid.ofChars? t.toList = some u) (ht : StringText t text) : u.Text text

theorem Uuid.Text.tells {α : Type} {u : Uuid} {text : List Char} (h : u.Text text) (mk : Uuid → α) :
    Tells (fun s => do
      let (u, rest) ← Uuid.read s
      pure (mk u, rest)) text (mk u) := by
  obtain ⟨hu, ht⟩ := h
  exact ⟨ht.begins, fun ws hws => spells_put ((ht.tells_spelling hu).spells ws hws) mk⟩

namespace Ticket

/-- What is to be given for a ticket: both identities. -/
def entries (t : Ticket) : List Entry := [
  ⟨"permit", t.permit.uuid.Text, False⟩,
  ⟨"gate", t.gate.uuid.Text, False⟩]

/-- A ticket of which the fields of some names have been read. -/
def draft (t : Ticket) (seen : List String) : Draft where
  permit := once seen "permit" t.permit
  gate := once seen "gate" t.gate

theorem complete_draft (t : Ticket) {seen : List String} (hpermit : "permit" ∈ seen) (hgate : "gate" ∈ seen) :
    (t.draft seen).complete = some t := by
  simp only [draft, once_of_mem hpermit, once_of_mem hgate]
  rfl

theorem shows (t : Ticket) : Shows schema t.entries t.draft t where
  blank := rfl
  takes :=
    .cons (takes_put (fun d x => ({ d with permit := some x } : Draft)) t.permit
        (fun _ h => by simp [draft, once, h]) (fun _ => by simp [draft, once]) fun _ h => h.tells PermitId.mk)
      (.cons (takes_put (fun d x => ({ d with gate := some x } : Draft)) t.gate
          (fun _ h => by simp [draft, once, h]) (fun _ => by simp [draft, once]) fun _ h => h.tells GateId.mk)
        .nil)
  object seen hseen := by
    simp only [entries, List.forall_mem_cons, or_false] at hseen
    exact complete_draft t hseen.1 hseen.2.1
  list seen hseen := by
    simp only [entries, List.forall_mem_cons] at hseen
    exact complete_draft t hseen.1 hseen.2.1

end Ticket

/-! ## Presentations -/

/-- Every text of a value is read as it, with spaces around it. -/
def ReadsAs {α : Type} (read : Read α) (Text : List Char → Prop) (a : α) : Prop :=
  ∀ ws text ws', Blank ws → Text text → Blank ws' → whole read (ws ++ (text ++ ws')) = .ok a

/-- **It does not matter how a record is presented.** Every status, snapshot and ticket, and all settings, are read from
any object that lists their fields, each once: in any order, with any spaces, with keys and strings in any spelling,
with members of other names and of any values anywhere among the fields, and with or without the fields that have
their default. They are read from the list of all their fields in order, too. -/
theorem presentation_exact :
    (∀ g : GateStatus, g.Fits → ReadsAs GateStatus.read (Presents g.entries) g) ∧
      (∀ s : Snapshot, s.Fits → ReadsAs Snapshot.read (Presents s.entries) s) ∧
      (∀ c : PoolConfig, c.Fits → ReadsAs PoolConfig.read (Presents c.entries) c) ∧
      ∀ t : Ticket, ReadsAs Ticket.read (Presents t.entries) t :=
  ⟨fun _ h _ _ _ hws ht hws' => (GateStatus.tells h ht).whole hws hws',
    fun _ h _ _ _ hws ht hws' => ((Snapshot.shows h).tells ht).whole hws hws',
    fun _ h _ _ _ hws ht hws' => ((PoolConfig.shows h).tells ht).whole hws hws',
    fun t _ _ _ hws ht hws' => (t.shows.tells ht).whole hws hws'⟩

/-- A snapshot is given in disorder, without its time and its pending gates, and with a member that it does not know. -/
theorem presentation_exact_scattered :
    let s : Snapshot := ⟨.suspending, 7, none, [⟨"/", .draining, -2⟩], []⟩
    let body := "\x7b\"x\":[-0.5e+3,\x7b\"\\ud800\":[]\x7d] , \"gates\":[[\"\\/\",\"DRAINING\",-2]],".toList ++
      "\"generation\" : 7,\"\\u0073tate\":\"SUSPENDING\"\n\x7d".toList
    s.Fits ∧ Presents s.entries body ∧ whole Snapshot.read (' ' :: (body ++ [' '])) = .ok s := by
  intro s body
  have hfits : s.Fits := ⟨by decide, List.forall_mem_cons.2 ⟨⟨by decide, by decide⟩, nofun⟩⟩
  have hunknown : Value "[-0.5e+3,\x7b\"\\ud800\":[]\x7d]".toList := by
    have hnumber : NumberText "-0.5e+3".toList :=
      .minus (w := ['0']) (f := ['.', '5']) (e := ['e', '+', '3']) .zero
        (.point ⟨by decide, List.forall_mem_singleton.2 rfl⟩)
        (.signed (.inl rfl) (.inl rfl) ⟨by decide, List.forall_mem_singleton.2 rfl⟩)
    have hkey : Loose ['\\', 'u', 'd', '8', '0', '0'] := .number (.mk rfl rfl rfl rfl) .nil
    have hmember : Membered (fun key (_ : Unit) => Loose key) true [((), ['[', ']'])] _ :=
      .member (.first blank_nil) hkey blank_nil blank_nil (.close blank_nil)
    have hempty : Value ['[', ']'] := .list (.close blank_nil) nofun
    have hlisted : Listed true ["-0.5e+3".toList, "\x7b\"\\ud800\":[]\x7d".toList] _ :=
      .item (.first blank_nil) (.item (.next blank_nil blank_nil) (.close blank_nil))
    exact .list hlisted (List.forall_mem_cons.2 ⟨.number hnumber,
      List.forall_mem_singleton.2 (.object hmember (List.forall_mem_singleton.2 hempty))⟩)
  have hgates : ItemsText (fun g => Presents g.entries) s.gates "[[\"\\/\",\"DRAINING\",-2]]".toList := by
    have hname : StringText "/" "\"\\/\"".toList := .mk (s := ['\\', '/']) (.letter rfl .nil)
    have hstate : StringText "DRAINING" "\"DRAINING\"".toList :=
      .mk (s := "DRAINING".toList) (writes_plain (by decide))
    have hgate : Listed true ["\"\\/\"".toList, "\"DRAINING\"".toList, "-2".toList] _ :=
      .item (.first blank_nil)
        (.item (.next blank_nil blank_nil) (.item (.next blank_nil blank_nil) (.close blank_nil)))
    have hlisted : Listed true ["[\"\\/\",\"DRAINING\",-2]".toList] _ := .item (.first blank_nil) (.close blank_nil)
    exact .mk hlisted (.cons (.list hgate (.cons hname (.cons hstate (.cons rfl .nil)))) .nil)
  have hspace : Blank [' '] := by decide
  have hline : Blank ['\n'] := by decide
  have hstate : StringText SuspendState.suspending.name "\"SUSPENDING\"".toList :=
    .mk (s := "SUSPENDING".toList) (writes_plain (by decide))
  have hkey : Writes ['\\', 'u', '0', '0', '7', '3', 't', 'a', 't', 'e'] ['s', 't', 'a', 't', 'e'] :=
    .number (n := 0x73) (.mk (i := 0) (j := 0) (k := 7) (l := 3) rfl rfl rfl rfl) (by decide)
      (writes_plain (by decide))
  have hmembers : Membered (fun key (name : String) => Writes key name.toList) true
      [("x", "[-0.5e+3,\x7b\"\\ud800\":[]\x7d]".toList), ("gates", "[[\"\\/\",\"DRAINING\",-2]]".toList),
        ("generation", ['7']), ("state", "\"SUSPENDING\"".toList)] _ :=
    .member (.first blank_nil) (writes_plain (by decide)) blank_nil blank_nil
      (.member (.next hspace hspace) (writes_plain (by decide)) blank_nil blank_nil
        (.member (.next blank_nil blank_nil) (writes_plain (by decide)) hspace hspace
          (.member (.next blank_nil blank_nil) hkey blank_nil blank_nil (.close hline))))
  have hlists : Lists s.entries [("x", "[-0.5e+3,\x7b\"\\ud800\":[]\x7d]".toList),
      ("gates", "[[\"\\/\",\"DRAINING\",-2]]".toList), ("generation", ['7']), ("state", "\"SUSPENDING\"".toList)] := by
    refine ⟨?_, ?_, ?_, ?_⟩
    · simp [Snapshot.entries, s, List.count_cons]
    · simp [Snapshot.entries, s]
    · have hseven : ['7'] = naturalText 7 := rfl
      simpa [Snapshot.entries, s] using And.intro hstate (And.intro hseven hgates)
    · simpa [Snapshot.entries, s] using hunknown
  have hbody : Presents s.entries body :=
    Eq.mp (congrArg (Presents s.entries) (by decide +kernel)) (Presents.object hmembers hlists)
  exact ⟨hfits, hbody, presentation_exact.2.1 s hfits [' '] body [' '] hspace hbody hspace⟩

end Sluice
