import Sluice.Proofs.Spelled

/-!
# Lists and records in a text

What stands between the brackets of a list or of an object is described here without the readers: spaces, commas, and
the texts of the items or members.

* `Items`: the items of a list, to its closing bracket. `readItems_of_items`: **they are read in order**.
* `Members`: the members of an object, in any order and with others among them. `readMembers_of_members`: **each goes
  into the draft, and the others are passed over**.
* `Fills`: a list of members that make a draft. `spells_object`: so an object of them is read as the record.
* `yields_list`, `yields_record`: what is read is in range if the items or fields are.
-/

namespace Sluice.Json

variable {σ α : Type} {read : Read α} {a : α} {as : List α} {c : Char} {s ws text more rest gap : List Char}
  {first : Bool}

/-! ## Between the items -/

/-- Nothing but spaces. -/
def Blank (ws : List Char) : Prop := ∀ c ∈ ws, isSpace c = true

/-- What stands before an item or a member: a comma, but for the first, and spaces. -/
inductive Gap : Bool → List Char → Prop
  | first {ws : List Char} (h : Blank ws) : Gap true ws
  | next {ws ws' : List Char} (h : Blank ws) (h' : Blank ws') : Gap false (ws ++ ',' :: ws')

theorem blank_nil : Blank [] := nofun

theorem skipSpace_blank (h : Blank ws) (hc : isSpace c = false) (s : List Char) :
    skipSpace (ws ++ c :: s) = c :: s := by
  unfold skipSpace
  rw [List.dropWhile_append_of_pos h]
  exact skipSpace_cons hc s

theorem stops_blank (h : Blank ws) (hs : Stops s) : Stops (ws ++ s) := by
  cases ws with
  | nil => exact hs
  | cons c ws =>
    have hc := h c List.mem_cons_self
    simp only [isSpace, Bool.or_eq_true, beq_iff_eq] at hc
    rcases hc with ((rfl | rfl) | rfl) | rfl <;> exact stops_cons (by decide) (by decide)

/-- Nothing goes on where a comma and the next item follow. -/
theorem Gap.stops (h : Gap false gap) (s : List Char) : Stops (gap ++ s) := by
  cases h with
  | next hb hb' =>
    rw [List.append_assoc]
    exact stops_blank hb (stops_cons (by decide) (by decide))

/-- A text begins with a character that is no space and closes no list. -/
def Begins (text : List Char) : Prop := ∃ c cs, text = c :: cs ∧ isSpace c = false ∧ c ≠ ']'

/-! ## Lists -/

/-- The items of a list that are read as these values, and the bracket that closes it. -/
inductive Items (read : Read α) : Bool → List Char → List α → Prop
  | close {first : Bool} {ws : List Char} (h : Blank ws) : Items read first (ws ++ [']']) []
  | item {first : Bool} {gap text more : List Char} {a : α} {as : List α} (hg : Gap first gap) (hb : Begins text)
      (hs : Spells read text a) (h : Items read false more as) : Items read first (gap ++ (text ++ more)) (a :: as)

theorem Items.stops (h : Items read false text as) (rest : List Char) : Stops (text ++ rest) := by
  cases h with
  | close hb =>
    rw [List.append_assoc]
    exact stops_blank hb (stops_cons (by decide) (by decide))
  | item hg =>
    rw [List.append_assoc]
    exact hg.stops _

theorem nextItem_close (h : Blank ws) (first : Bool) (s : List Char) :
    nextItem first (ws ++ ']' :: s) = .ok (.closed s) := by
  unfold nextItem
  rw [skipSpace_blank h (by decide)]
  rfl

theorem nextItem_item (hg : Gap first gap) (hb : Begins text) (s : List Char) :
    nextItem first (gap ++ (text ++ s)) = .ok (.item (text ++ s)) := by
  obtain ⟨c, cs, rfl, hc, hne⟩ := hb
  cases hg with
  | first h =>
    unfold nextItem
    rw [List.cons_append, skipSpace_blank h hc]
    exact if_neg hne
  | next h h' =>
    unfold nextItem
    rw [List.append_assoc, List.cons_append, skipSpace_blank h (by decide)]
    simp only [List.cons_append, skipSpace_blank h' hc, if_neg hne]
    rfl

/-- **The items of a list are read in order.** -/
theorem readItems_of_items (h : Items read first text as) {turns : Nat} (ht : text.length < turns)
    (rest : List Char) : readItems read turns first (text ++ rest) = .ok (as, rest) := by
  induction h generalizing turns with
  | close hb =>
    cases turns with
    | zero => simp at ht
    | succ turns =>
      rw [readItems, List.append_assoc, List.singleton_append, nextItem_close hb]
      rfl
  | @item first gap text more a as hg hb hs h ih =>
    cases turns with
    | zero => simp at ht
    | succ turns =>
      have hlt : more.length < turns := by
        obtain ⟨c, cs, rfl, -⟩ := hb
        simp only [List.length_append, List.length_cons] at ht
        omega
      rw [readItems, List.append_assoc, List.append_assoc, nextItem_item hg hb]
      simp only [bind, Except.bind, hs _ (h.stops rest), ih hlt]
      rfl

theorem spells_items (h : Items read true text as) : Spells (readList read) ('[' :: text) as := by
  intro rest _
  unfold readList
  rw [List.cons_append, skipSpace_cons (by decide)]
  exact readItems_of_items h (by rw [List.length_append]; omega) rest

/-- Texts with a comma before each. -/
def commaEach : List (List Char) → List Char
  | [] => []
  | t :: ts => ',' :: (t ++ commaEach ts)

theorem commaJoin_cons (t : List Char) (ts : List (List Char)) : commaJoin (t :: ts) = t ++ commaEach ts := by
  induction ts generalizing t with
  | nil => simp [commaJoin, commaEach]
  | cons u ts ih => rw [commaJoin, ih, commaEach]

/-- **A list is read back** if its items are. -/
theorem spells_list {encode : α → List Char} (h : ∀ a ∈ as, Spells read (encode a) a ∧ Begins (encode a)) :
    Spells (readList read) (listOf (as.map encode)) as := by
  have hmore (as : List α) (h : ∀ a ∈ as, Spells read (encode a) a ∧ Begins (encode a)) :
      Items read false (commaEach (as.map encode) ++ [']']) as := by
    induction as with
    | nil => exact .close blank_nil
    | cons a as ih =>
      obtain ⟨⟨hs, hb⟩, hrest⟩ := List.forall_mem_cons.1 h
      have hitem := Items.item (.next blank_nil blank_nil) hb hs (ih hrest)
      simpa [commaEach] using hitem
  refine spells_items ?_
  cases as with
  | nil => exact .close blank_nil
  | cons a as =>
    obtain ⟨⟨hs, hb⟩, hrest⟩ := List.forall_mem_cons.1 h
    have hitem := Items.item (.first blank_nil) hb hs (hmore as hrest)
    rw [List.map_cons, commaJoin_cons]
    simpa using hitem

/-! ## Records -/

/-- A text is passed over as a value. -/
def Skips (text : List Char) : Prop := ∀ rest, Stops rest → skipValue (text ++ rest) = .ok rest

/-- The rest of the key of an object's member, after its opening quote. -/
def Names (key : List Char) (name : String) : Prop := ∀ rest, readText (key ++ rest) = .ok (name, rest)

/-- The members of an object, each of which goes into the draft of a record or is of no field, and the bracket that
closes it. -/
inductive Members (fields : List (Field σ)) : Bool → σ → List Char → σ → Prop
  | close {first : Bool} {ws : List Char} {d : σ} (h : Blank ws) : Members fields first d (ws ++ ['\x7d']) d
  | field {first : Bool} {gap key ws text more : List Char} {name : String} {f : Field σ} {d d' d'' : σ}
      (hg : Gap first gap) (hk : Names key name) (hws : Blank ws) (hf : fields.find? (fun f => f.name = name) = some f)
      (hnew : f.has d = false) (hs : Spells (f.read d) text d') (h : Members fields false d' more d'') :
      Members fields first d (gap ++ '"' :: (key ++ (ws ++ ':' :: (text ++ more)))) d''
  | other {first : Bool} {gap key ws text more : List Char} {name : String} {d d' : σ}
      (hg : Gap first gap) (hk : Names key name) (hws : Blank ws) (hf : fields.find? (fun f => f.name = name) = none)
      (hs : Skips text) (h : Members fields false d more d') :
      Members fields first d (gap ++ '"' :: (key ++ (ws ++ ':' :: (text ++ more)))) d'

variable {fields : List (Field σ)} {d d' : σ}

theorem Members.stops (h : Members fields false d text d') (rest : List Char) : Stops (text ++ rest) := by
  cases h with
  | close hb =>
    rw [List.append_assoc]
    exact stops_blank hb (stops_cons (by decide) (by decide))
  | field hg =>
    rw [List.append_assoc]
    exact hg.stops _
  | other hg =>
    rw [List.append_assoc]
    exact hg.stops _

theorem nextKey_close (h : Blank ws) (first : Bool) (s : List Char) :
    nextKey first (ws ++ '\x7d' :: s) = .ok (.closed s) := by
  unfold nextKey
  rw [skipSpace_blank h (by decide)]
  rfl

theorem nextKey_item (hg : Gap first gap) (s : List Char) : nextKey first (gap ++ '"' :: s) = .ok (.item s) := by
  cases hg with
  | first h =>
    unfold nextKey
    rw [skipSpace_blank h (by decide)]
    rfl
  | next h h' =>
    unfold nextKey
    rw [List.append_assoc, List.cons_append, skipSpace_blank h (by decide)]
    simp only [skipSpace_blank h' (show isSpace '"' = false by decide)]
    rfl

theorem colon_blank (h : Blank ws) (s : List Char) : colon (ws ++ ':' :: s) = .ok s := by
  unfold colon
  rw [skipSpace_blank h (by decide)]
  rfl

/-- **The members of an object are read**, each into the draft or over. -/
theorem readMembers_of_members (h : Members fields first d text d') {turns : Nat} (ht : text.length < turns)
    (rest : List Char) : Schema.readMembers fields turns first d (text ++ rest) = .ok (d', rest) := by
  induction h generalizing turns with
  | close hb =>
    cases turns with
    | zero => simp at ht
    | succ turns =>
      rw [Schema.readMembers, List.append_assoc, List.singleton_append, nextKey_close hb]
      rfl
  | @field first gap key ws text more name f d d' d'' hg hk hws hf hnew hs h ih =>
    cases turns with
    | zero => simp at ht
    | succ turns =>
      have hlt : more.length < turns := by
        simp only [List.length_append, List.length_cons] at ht
        omega
      rw [Schema.readMembers, List.append_assoc, List.cons_append, nextKey_item hg]
      simp only [List.append_assoc, List.cons_append, bind, Except.bind, hk _, hf, hnew, colon_blank hws,
        hs _ (h.stops rest), ih hlt]
      rfl
  | @other first gap key ws text more name d d' hg hk hws hf hs h ih =>
    cases turns with
    | zero => simp at ht
    | succ turns =>
      have hlt : more.length < turns := by
        simp only [List.length_append, List.length_cons] at ht
        omega
      rw [Schema.readMembers, List.append_assoc, List.cons_append, nextKey_item hg]
      simp only [List.append_assoc, List.cons_append, bind, Except.bind, hk _, hf, colon_blank hws,
        hs _ (h.stops rest), ih hlt]

/-- **An object is read as the record that its members make.** -/
theorem spells_members {S : Schema σ α} (h : Members S.fields true S.blank text d) (ha : S.ofObject d = some a) :
    Spells S.readRecord ('\x7b' :: text) a := by
  intro rest _
  have hread := readMembers_of_members h (Nat.lt_succ_of_le (text.length.le_add_right rest.length)) rest
  rw [← List.length_append] at hread
  unfold Schema.readRecord
  rw [List.cons_append, skipSpace_cons (by decide)]
  simp only [bind, Except.bind, hread, Schema.finish, ha]

/-- These members, in this order, make a draft. -/
inductive Fills (fields : List (Field σ)) : σ → List (String × List Char) → σ → Prop
  | nil {d : σ} : Fills fields d [] d
  | cons {name : String} {text : List Char} {ms : List (String × List Char)} {f : Field σ} {d d' d'' : σ}
      (hf : fields.find? (fun f => f.name = name) = some f) (hnew : f.has d = false)
      (hs : Spells (f.read d) text d') (h : Fills fields d' ms d'') : Fills fields d ((name, text) :: ms) d''

theorem names_text (name : String) : Names (name.toList.flatMap escape ++ ['"']) name := by
  intro rest
  rw [List.append_assoc]
  exact readText_escaped name rest

/-- The field of this name takes what a reader reads, and puts it into a draft that lacks it. -/
def Puts (fields : List (Field σ)) (name : String) (read : Read α) (has : σ → Bool) (put : σ → α → σ) : Prop :=
  fields.find? (fun f => f.name = name) = some ⟨name, has, fun d s => do
    let (x, rest) ← read s
    pure (put d x, rest)⟩

theorem spells_put (h : Spells read text a) (p : α → σ) :
    Spells (fun s => do
      let (x, rest) ← read s
      pure (p x, rest)) text (p a) := by
  intro rest hr
  simp only [h rest hr, bind, Except.bind]
  rfl

/-- A member that is read for a field fills it. -/
theorem Fills.put {name : String} {has : σ → Bool} {p : σ → α → σ} {ms : List (String × List Char)}
    (hp : Puts fields name read has p) (hnew : has d = false) (hs : Spells read text a)
    (h : Fills fields (p d a) ms d') : Fills fields d ((name, text) :: ms) d' :=
  .cons hp hnew (spells_put hs (p d)) h

theorem Fills.append {ms ms' : List (String × List Char)} {d'' : σ} (h : Fills fields d ms d')
    (h' : Fills fields d' ms' d'') : Fills fields d (ms ++ ms') d'' := by
  induction h with
  | nil => exact h'
  | cons hf hnew hs _ ih => exact .cons hf hnew hs (ih h')

/-- **An object of its members is read as the record.** -/
theorem spells_object {S : Schema σ α} {ms : List (String × List Char)} (h : Fills S.fields S.blank ms d)
    (ha : S.ofObject d = some a) : Spells S.readRecord (objectOf ms) a := by
  let member (m : String × List Char) : List Char := textOf m.1 ++ ':' :: m.2
  have hmore {d d' : σ} {ms : List (String × List Char)} (h : Fills S.fields d ms d') :
      Members S.fields false d (commaEach (ms.map member) ++ ['\x7d']) d' := by
    induction h with
    | nil => exact .close blank_nil
    | @cons name text ms f d d' d'' hf hnew hs _ ih =>
      have hfield := Members.field (.next blank_nil blank_nil) (names_text name) blank_nil hf hnew hs ih
      simpa [commaEach, member, textOf] using hfield
  have hmembers : Members S.fields true S.blank (commaJoin (ms.map member) ++ ['\x7d']) d := by
    cases h with
    | nil => exact .close blank_nil
    | cons hf hnew hs hrest =>
      have hfield := Members.field (.first blank_nil) (names_text _) blank_nil hf hnew hs (hmore hrest)
      rw [List.map_cons, commaJoin_cons]
      simpa [member, textOf] using hfield
  exact spells_members hmembers ha

/-! ## What is in range -/

theorem yields_into {p : α → σ} {P : α → Prop} {Q : σ → Prop} (h : Yields read P) (hq : ∀ a, P a → Q (p a)) :
    Yields (fun s => do
      let (x, rest) ← read s
      pure (p x, rest)) Q := by
  intro s b rest hr
  obtain ⟨⟨a, r⟩, ha, hr⟩ := bind_eq_ok.1 hr
  cases hr
  exact hq a (h s a _ ha)

theorem readItems_keeps {P : α → Prop} (h : Yields read P) {turns : Nat}
    (hr : readItems read turns first s = .ok (as, rest)) : ∀ a ∈ as, P a := by
  induction turns generalizing first s as rest with
  | zero => cases hr
  | succ turns ih =>
    rw [readItems] at hr
    obtain ⟨next, -, hr⟩ := bind_eq_ok.1 hr
    cases next with
    | closed r =>
      cases hr
      exact nofun
    | item r =>
      obtain ⟨⟨a, r₁⟩, ha, hr⟩ := bind_eq_ok.1 hr
      obtain ⟨⟨as', r₂⟩, has, hr⟩ := bind_eq_ok.1 hr
      cases hr
      exact List.forall_mem_cons.2 ⟨h r a r₁ ha, ih has⟩

theorem yields_list {P : α → Prop} (h : Yields read P) : Yields (readList read) fun as => ∀ a ∈ as, P a := by
  intro s as rest hr
  unfold readList at hr
  split at hr
  · cases hr
  · exact readItems_keeps h hr
  · cases hr

theorem readMembers_keeps {I : σ → Prop} (h : ∀ f ∈ fields, ∀ d, I d → Yields (f.read d) I) {turns : Nat}
    (hd : I d) (hr : Schema.readMembers fields turns first d s = .ok (d', rest)) : I d' := by
  induction turns generalizing first d s with
  | zero => cases hr
  | succ turns ih =>
    rw [Schema.readMembers] at hr
    obtain ⟨next, -, hr⟩ := bind_eq_ok.1 hr
    cases next with
    | closed r =>
      cases hr
      exact hd
    | item r =>
      obtain ⟨⟨name, r₁⟩, -, hr⟩ := bind_eq_ok.1 hr
      simp only at hr
      split at hr
      · rename_i f hf
        split at hr
        · cases hr
        · obtain ⟨_, -, hr⟩ := bind_eq_ok.1 hr
          obtain ⟨⟨d₁, r₂⟩, hread, hr⟩ := bind_eq_ok.1 hr
          exact ih (h f (List.mem_of_find?_eq_some hf) d hd _ _ _ hread) hr
      · obtain ⟨_, -, hr⟩ := bind_eq_ok.1 hr
        obtain ⟨_, -, hr⟩ := bind_eq_ok.1 hr
        exact ih hd hr

theorem readFields_keeps {I : σ → Prop} (h : ∀ f ∈ fields, ∀ d, I d → Yields (f.read d) I) (hd : I d)
    (hr : Schema.readFields fields first d s = .ok (d', rest)) : I d' := by
  induction fields generalizing first d s with
  | nil =>
    rw [Schema.readFields] at hr
    split at hr
    · cases hr
    · split at hr
      · cases hr
        exact hd
      · cases hr
  | cons f fs ih =>
    rw [Schema.readFields] at hr
    obtain ⟨next, -, hr⟩ := bind_eq_ok.1 hr
    cases next with
    | closed r =>
      cases hr
      exact hd
    | item r =>
      obtain ⟨⟨d₁, r₁⟩, hread, hr⟩ := bind_eq_ok.1 hr
      exact ih (fun g hg => h g (List.mem_cons_of_mem f hg)) (h f List.mem_cons_self d hd _ _ _ hread) hr

/-- **What is read as a record is in range** if its fields are. -/
theorem yields_record {S : Schema σ α} {I : σ → Prop} {P : α → Prop} (hblank : I S.blank)
    (hfields : ∀ f ∈ S.fields, ∀ d, I d → Yields (f.read d) I)
    (hobject : ∀ d a, I d → S.ofObject d = some a → P a) (hlist : ∀ d a, I d → S.ofList d = some a → P a) :
    Yields S.readRecord P := by
  have hfinish {make : σ → Option α} {r : σ × List Char} {a : α} {rest : List Char} (hr : I r.1)
      (hmake : ∀ d a, I d → make d = some a → P a) (h : Schema.finish make r = .ok (a, rest)) : P a := by
    unfold Schema.finish at h
    split at h
    · rename_i a' ha
      cases h
      exact hmake _ _ hr ha
    · cases h
  intro s a rest hr
  unfold Schema.readRecord at hr
  split at hr
  · cases hr
  · obtain ⟨⟨d, r⟩, hd, hr⟩ := bind_eq_ok.1 hr
    exact hfinish (readMembers_keeps hfields hblank hd) hobject hr
  · obtain ⟨⟨d, r⟩, hd, hr⟩ := bind_eq_ok.1 hr
    exact hfinish (readFields_keeps hfields hblank hd) hlist hr
  · cases hr

end Sluice.Json
