import Mathlib.Data.List.DropRight
import Mathlib.Data.Nat.Digits.Defs
import Sluice.Config
import Sluice.Proofs.Readers

/-!
# The settings that an environment makes

What a variable may say is given here without the readers: as the texts that spell a value, and as the reasons why a
text spells none.

* `Trimmed`: a text between its blanks. `trimmed_iff`: `trim` finds it.
* `Numeral`: an optional plus sign and decimal digits. `NumeralFault`: why a text is no numeral up to a greatest one.
  `Flag`, `Seconds`: the spellings of a truth value and of a span.
* `Reads`: a reader takes these spellings, and names these faults. `reads_natural`, `reads_flag`, `reads_seconds`:
  **the readers of the three variables do**.
* `ServerConfig.Holds`, `ServerConfig.Bad`: what a variable says, or that it says nothing.
* `ServerConfig.ofEnvironment_exact`: which settings an environment makes, and which of its variables is to blame.
-/

namespace Sluice

variable {s t p ds : List Char} {c : Char} {n acc bound : Nat}

/-! ## Blanks -/

/-- A text is another one without the blanks at its two ends. -/
structure Trimmed (s t : List Char) : Prop where
  between : ∃ a b, s = a ++ t ++ b ∧ (∀ c ∈ a, isBlank c) ∧ ∀ c ∈ b, isBlank c
  first : ∀ c, t.head? = some c → isBlank c = false
  last : ∀ c, t.getLast? = some c → isBlank c = false

theorem trim_eq (s : List Char) : trim s = (s.dropWhile isBlank).rdropWhile isBlank := rfl

theorem trimmed_trim (s : List Char) : Trimmed s (trim s) := by
  refine ⟨⟨s.takeWhile isBlank, (s.dropWhile isBlank).rtakeWhile isBlank, ?_, ?_, ?_⟩, fun c hc => ?_, fun c hc => ?_⟩
  · rw [trim_eq, List.append_assoc, List.rdropWhile_append_rtakeWhile, List.takeWhile_append_dropWhile]
  · exact fun c hc => List.mem_takeWhile_imp hc
  · exact fun c hc => List.mem_rtakeWhile_imp hc
  · -- it begins as the text without its first blanks does
    have hpre : trim s <+: s.dropWhile isBlank := List.rdropWhile_prefix isBlank _
    have hhead : (s.dropWhile isBlank).head? = some c := by
      obtain ⟨rest, hrest⟩ := hpre
      rw [← hrest, List.head?_append, hc]
      rfl
    have hnot := List.head?_dropWhile_not isBlank s
    rw [hhead] at hnot
    exact hnot
  · have hne : (s.dropWhile isBlank).rdropWhile isBlank ≠ [] := by
      intro h
      rw [trim_eq, h] at hc
      cases hc
    have hnot := List.rdropWhile_last_not isBlank (s.dropWhile isBlank) hne
    rw [trim_eq, List.getLast?_eq_some_getLast hne] at hc
    rw [← Option.some.inj hc]
    simpa using hnot

/-- **Every text has one part between its blanks, and it is found.** -/
theorem trimmed_iff : Trimmed s t ↔ t = trim s := by
  refine ⟨fun h => ?_, fun h => h ▸ trimmed_trim s⟩
  obtain ⟨⟨a, b, rfl, ha, hb⟩, hfirst, hlast⟩ := h
  have hb' : ∀ c ∈ b.reverse, isBlank c := fun c hc => hb c (List.mem_reverse.1 hc)
  rw [trim, List.append_assoc, List.dropWhile_append_of_pos ha]
  cases t with
  | nil =>
    have hnone : b.dropWhile isBlank = [] := List.dropWhile_eq_nil_iff.2 hb
    rw [List.nil_append, hnone]
    rfl
  | cons x t =>
    have hx : isBlank x = false := hfirst x rfl
    have hdrop : (x :: t ++ b).dropWhile isBlank = x :: t ++ b := by simp [hx]
    rw [hdrop, List.reverse_append, List.dropWhile_append_of_pos hb']
    obtain ⟨y, hy⟩ : ∃ y, (x :: t).getLast? = some y := ⟨_, List.getLast?_eq_some_getLast (by simp)⟩
    have hrev : (x :: t).reverse.dropWhile isBlank = (x :: t).reverse := by
      obtain ⟨ys, hys⟩ := List.getLast?_eq_some_iff.1 hy
      have hyb := hlast y hy
      rw [hys, List.reverse_append]
      simp [hyb]
    rw [hrev, List.reverse_reverse]

/-! ## Numerals -/

/-- The number that decimal digits write. -/
def numeralValue (ds : List Char) : Nat := Nat.ofDigits 10 (ds.reverse.map fun c => c.toNat - 48)

/-- One or more decimal digits that write a number. -/
structure Digits (ds : List Char) (n : Nat) : Prop where
  ne_nil : ds ≠ []
  digit : ∀ c ∈ ds, c.isDigit
  value : numeralValue ds = n

/-- Decimal digits, with an optional plus sign before them, that write a number. -/
def Numeral (s : List Char) (n : Nat) : Prop := ∃ ds, (s = ds ∨ s = '+' :: ds) ∧ Digits ds n

/-- A numeral of a number beyond the greatest one stands at the front of a text. -/
def Exceeds (max : Nat) (s : List Char) : Prop := ∃ p n, p <+: s ∧ Numeral p n ∧ max < n

/-- Why a text is no numeral of a number up to a greatest one. -/
inductive NumeralFault (max : Nat) (s : List Char) : String → Prop
  | empty (h : s = []) : NumeralFault max s "cannot parse integer from empty string"
  | tooLarge (h : Exceeds max s) : NumeralFault max s "number too large to fit in target type"
  | badDigit (hs : s ≠ []) (h : ¬ Exceeds max s) : NumeralFault max s "invalid digit found in string"

theorem numeralValue_cons (c : Char) (ds : List Char) :
    numeralValue (c :: ds) = (c.toNat - 48) * 10 ^ ds.length + numeralValue ds := by
  simp only [numeralValue, List.reverse_cons, List.map_append, List.map_cons, List.map_nil, Nat.ofDigits_append,
    Nat.ofDigits_singleton, List.length_map, List.length_reverse]
  ring

/-- The value of digits that are read on from a number. -/
def onward (acc : Nat) (ds : List Char) : Nat := acc * 10 ^ ds.length + numeralValue ds

theorem onward_nil (acc : Nat) : onward acc [] = acc := by simp [onward, numeralValue]

theorem onward_cons (acc : Nat) (c : Char) (ds : List Char) :
    onward acc (c :: ds) = onward (acc * 10 + (c.toNat - 48)) ds := by
  simp only [onward, numeralValue_cons, List.length_cons, pow_succ]
  ring

theorem onward_zero (ds : List Char) : onward 0 ds = numeralValue ds := by simp [onward]

theorem le_onward (acc : Nat) (ds : List Char) : acc ≤ onward acc ds := by
  have hpow : 1 ≤ 10 ^ ds.length := Nat.one_le_pow _ _ (by decide)
  calc acc = acc * 1 := (Nat.mul_one acc).symm
    _ ≤ acc * 10 ^ ds.length := Nat.mul_le_mul_left acc hpow
    _ ≤ onward acc ds := Nat.le_add_right _ _

/-- **Digits are read to their value**, or to the first character at which they are none or too many. -/
theorem readDigits_cases (h : acc < bound) (ds : List Char) :
    (readDigits bound acc ds = .ok (onward acc ds) ∧ (∀ c ∈ ds, c.isDigit) ∧ onward acc ds < bound) ∨
      (readDigits bound acc ds = .error .tooLarge ∧
        ∃ p, p <+: ds ∧ (∀ c ∈ p, c.isDigit) ∧ bound ≤ onward acc p) ∨
      (readDigits bound acc ds = .error .badDigit ∧ (¬ ∀ c ∈ ds, c.isDigit) ∧
        ∀ p, p <+: ds → (∀ c ∈ p, c.isDigit) → onward acc p < bound) := by
  induction ds generalizing acc with
  | nil => exact .inl ⟨by rw [onward_nil]; rfl, by simp, by rwa [onward_nil]⟩
  | cons c ds ih =>
    by_cases hc : c.isDigit
    swap
    · -- the first character that is no digit decides
      have hread : readDigits bound acc (c :: ds) = .error .badDigit := if_neg (mt isDigit_iff.2 hc)
      refine .inr (.inr ⟨hread, fun hall => hc (hall c List.mem_cons_self), fun p hp hd => ?_⟩)
      rcases List.prefix_cons_iff.1 hp with rfl | ⟨q, rfl, -⟩
      · rwa [onward_nil]
      · exact absurd (hd c List.mem_cons_self) hc
    have hread : readDigits bound acc (c :: ds) =
        if acc * 10 + (c.toNat - 48) < bound then readDigits bound (acc * 10 + (c.toNat - 48)) ds
        else .error .tooLarge := if_pos (isDigit_iff.1 hc)
    by_cases hn : acc * 10 + (c.toNat - 48) < bound
    swap
    · rw [if_neg hn] at hread
      refine .inr (.inl ⟨hread, [c], List.cons_prefix_cons.2 ⟨rfl, List.nil_prefix⟩, by simpa using hc, ?_⟩)
      rw [onward_cons, onward_nil]
      exact Nat.le_of_not_lt hn
    rw [hread, if_pos hn, onward_cons]
    rcases ih hn with ⟨hok, hd, hlt⟩ | ⟨hbig, p, hp, hd, hle⟩ | ⟨hbad, hd, hlt⟩
    · exact .inl ⟨hok, List.forall_mem_cons.2 ⟨hc, hd⟩, hlt⟩
    · refine .inr (.inl ⟨hbig, c :: p, List.cons_prefix_cons.2 ⟨rfl, hp⟩, List.forall_mem_cons.2 ⟨hc, hd⟩, ?_⟩)
      rwa [onward_cons]
    · refine .inr (.inr ⟨hbad, fun hall => hd (List.forall_mem_cons.1 hall).2, fun p hp hpd => ?_⟩)
      rcases List.prefix_cons_iff.1 hp with rfl | ⟨q, rfl, hq⟩
      · rwa [onward_nil]
      · rw [onward_cons]
        exact hlt q hq (List.forall_mem_cons.1 hpd).2

/-- The value of all digits is at least that of the first. -/
theorem onward_mono (hp : p <+: ds) (acc : Nat) : onward acc p ≤ onward acc ds := by
  induction p generalizing acc ds with
  | nil => exact (onward_nil acc).symm ▸ le_onward acc ds
  | cons c p ih =>
    obtain ⟨rest, rfl⟩ := hp
    rw [List.cons_append, onward_cons, onward_cons]
    exact ih (List.prefix_append p rest) _

/-! ## Readers -/

/-- A reader takes the spellings of values, and names the fault of what spells none. -/
structure Reads {β : Type} (read : List Char → Except ConfigFault β) (spells : List Char → β → Prop)
    (why : List Char → String → Prop) : Prop where
  ok : ∀ s b, read s = .ok b ↔ spells s b
  error : ∀ s fault, read s = .error fault ↔ (∀ b, ¬ spells s b) ∧ why s fault.message

theorem message_injective {a b : ConfigFault} (h : a.message = b.message) : a = b := by
  cases a <;> cases b <;> first | rfl | (revert h; decide)

/-- It is enough to know the values and the faults that a reader gives, if there is one fault for each text. -/
theorem Reads.of {β : Type} {read : List Char → Except ConfigFault β} {spells : List Char → β → Prop}
    {why : List Char → String → Prop} (hok : ∀ s b, read s = .ok b ↔ spells s b)
    (herror : ∀ s fault, read s = .error fault → why s fault.message)
    (hone : ∀ s a b, why s a → why s b → a = b) : Reads read spells why := by
  refine ⟨hok, fun s fault => ⟨fun h => ⟨fun b hb => ?_, herror s fault h⟩, fun ⟨hnone, hwhy⟩ => ?_⟩⟩
  · rw [← hok, h] at hb
    cases hb
  · cases h : read s with
    | ok b => exact absurd ((hok s b).1 h) (hnone b)
    | error fault' => rw [message_injective (hone s _ _ (herror s fault' h) hwhy)]

theorem NumeralFault.eq {max : Nat} {a b : String} (ha : NumeralFault max s a) (hb : NumeralFault max s b) :
    a = b := by
  have hnil (hs : s = []) (h : Exceeds max s) : False := by
    obtain ⟨p, n, hp, ⟨ds, hds, hd⟩, -⟩ := h
    rw [hs, List.prefix_nil] at hp
    rcases hds with rfl | rfl
    · exact hd.ne_nil hp
    · cases hp
  cases ha with
  | empty hs =>
    cases hb with
    | empty => rfl
    | tooLarge h => exact (hnil hs h).elim
    | badDigit hne => exact absurd hs hne
  | tooLarge h =>
    cases hb with
    | empty hs => exact (hnil hs h).elim
    | tooLarge => rfl
    | badDigit _ hn => exact absurd h hn
  | badDigit hne hn =>
    cases hb with
    | empty hs => exact absurd hs hne
    | tooLarge h => exact absurd h hn
    | badDigit => rfl

/-- A text without the sign before it. -/
def unsigned : List Char → List Char
  | '+' :: cs => cs
  | cs => cs

theorem unsigned_of_ne (h : ∀ cs, s ≠ '+' :: cs) : unsigned s = s := by
  unfold unsigned
  split
  · rename_i cs
    exact absurd rfl (h cs)
  · rfl

theorem numeral_iff : Numeral s n ↔ Digits (unsigned s) n := by
  by_cases h : ∃ cs, s = '+' :: cs
  · obtain ⟨cs, rfl⟩ := h
    refine ⟨?_, fun hd => ⟨cs, .inr rfl, hd⟩⟩
    rintro ⟨ds, rfl | hds, hd⟩
    · exact absurd (hd.digit '+' List.mem_cons_self) (by decide)
    · obtain rfl := (List.cons.inj hds).2
      exact hd
  · have hs : unsigned s = s := unsigned_of_ne fun cs e => h ⟨cs, e⟩
    rw [hs]
    refine ⟨?_, fun hd => ⟨s, .inl rfl, hd⟩⟩
    rintro ⟨ds, rfl | rfl, hd⟩
    · exact hd
    · exact absurd ⟨ds, rfl⟩ h

theorem exceeds_iff {max : Nat} : Exceeds max s ↔ ∃ p n, p <+: unsigned s ∧ Digits p n ∧ max < n := by
  by_cases h : ∃ cs, s = '+' :: cs
  · obtain ⟨cs, rfl⟩ := h
    constructor
    · rintro ⟨p, n, hp, hn, hlt⟩
      have hd := numeral_iff.1 hn
      rcases List.prefix_cons_iff.1 hp with rfl | ⟨q, rfl, hq⟩
      · exact absurd rfl hd.ne_nil
      · exact ⟨q, n, hq, hd, hlt⟩
    · rintro ⟨p, n, hp, hd, hlt⟩
      exact ⟨'+' :: p, n, List.cons_prefix_cons.2 ⟨rfl, hp⟩, numeral_iff.2 hd, hlt⟩
  · have hs : unsigned s = s := unsigned_of_ne fun cs e => h ⟨cs, e⟩
    rw [hs]
    constructor
    · rintro ⟨p, n, hp, ⟨ds, rfl | rfl, hd⟩, hlt⟩
      · exact ⟨p, n, hp, hd, hlt⟩
      · obtain ⟨rest, rfl⟩ := hp
        exact absurd ⟨ds ++ rest, rfl⟩ h
    · rintro ⟨p, n, hp, hd, hlt⟩
      exact ⟨p, n, hp, ⟨p, .inl rfl, hd⟩, hlt⟩

theorem readBounded_eq (hs : s ≠ []) :
    readBounded bound s =
      if unsigned s = [] then .error .badDigit else readDigits bound 0 (unsigned s) := by
  unfold readBounded
  split
  · exact absurd rfl hs
  · rfl
  · rename_i cs hcs
    have hne : unsigned ('+' :: cs) ≠ [] := hcs
    rw [if_neg hne]
    rfl
  · rename_i hplus
    have hu : unsigned s = s := unsigned_of_ne fun cs e => hplus cs e
    rw [hu, if_neg hs]

/-- **A natural number is read from its numerals.** -/
theorem reads_natural (max : Nat) :
    Reads (readBounded (max + 1)) (fun s n => Numeral s n ∧ n ≤ max) (NumeralFault max) := by
  refine .of (fun s n => ?_) (fun s fault h => ?_) fun s a b ha hb => ha.eq hb
  · rw [numeral_iff]
    by_cases hs : s = []
    · subst hs
      exact ⟨nofun, fun h => absurd rfl h.1.ne_nil⟩
    rw [readBounded_eq hs]
    by_cases hu : unsigned s = []
    · rw [if_pos hu]
      exact ⟨nofun, fun h => absurd hu h.1.ne_nil⟩
    rw [if_neg hu]
    rcases readDigits_cases (Nat.succ_pos max) (unsigned s) with ⟨hr, hd, hlt⟩ | ⟨hr, p, hp, -, hle⟩ | ⟨hr, hd, -⟩
    · rw [hr, onward_zero, Except.ok.injEq]
      rw [onward_zero] at hlt
      constructor
      · rintro rfl
        exact ⟨⟨hu, hd, rfl⟩, Nat.lt_succ_iff.1 hlt⟩
      · exact fun h => h.1.value
    · -- a numeral is at least what stands at its front
      rw [hr]
      refine ⟨nofun, fun h => absurd h.2 ?_⟩
      have hmono := onward_mono hp 0
      rw [onward_zero (unsigned s), h.1.value] at hmono
      omega
    · rw [hr]
      exact ⟨nofun, fun h => absurd h.1.digit hd⟩
  · by_cases hs : s = []
    · subst hs
      obtain rfl := Except.error.inj h
      exact .empty rfl
    rw [readBounded_eq hs] at h
    by_cases hu : unsigned s = []
    · rw [if_pos hu] at h
      obtain rfl := Except.error.inj h
      refine .badDigit hs fun he => ?_
      obtain ⟨p, n, hp, hd, -⟩ := exceeds_iff.1 he
      rw [hu, List.prefix_nil] at hp
      exact hd.ne_nil hp
    rw [if_neg hu] at h
    rcases readDigits_cases (Nat.succ_pos max) (unsigned s) with ⟨hr, -, -⟩ | ⟨hr, p, hp, hd, hle⟩ | ⟨hr, -, hlt⟩
    · rw [hr] at h
      cases h
    · rw [hr] at h
      obtain rfl := Except.error.inj h
      refine .tooLarge (exceeds_iff.2 ⟨p, numeralValue p, hp, ⟨?_, hd, rfl⟩, ?_⟩)
      · rintro rfl
        rw [onward_nil] at hle
        exact absurd hle (by omega)
      · rwa [onward_zero] at hle
    · rw [hr] at h
      obtain rfl := Except.error.inj h
      refine .badDigit hs fun he => ?_
      obtain ⟨p, n, hp, hd, hmax⟩ := exceeds_iff.1 he
      have hp' := hlt p hp hd.digit
      rw [onward_zero, hd.value] at hp'
      omega

example : readBounded 0x1_0000 ['6', '5', '5', '3', '6', 'x'] = .error .tooLarge ∧
    readBounded 0x1_0000 ['6', '5', '5', '3', 'x', '6'] = .error .badDigit := ⟨rfl, rfl⟩

/-- A text spells a truth value: it is one of these words, in any case of its ASCII letters. -/
inductive Flag (s : List Char) : Bool → Prop
  | yes (w : String) (hw : w ∈ ["1", "true", "yes", "on"]) (h : s.map Char.toLower = w.toList) : Flag s true
  | no (w : String) (hw : w ∈ ["0", "false", "no", "off", ""]) (h : s.map Char.toLower = w.toList) : Flag s false

theorem ofList_eq_iff {w : String} : String.ofList s = w ↔ s = w.toList := by
  constructor
  · rintro rfl
    exact String.toList_ofList.symm
  · rintro rfl
    exact String.ofList_toList

/-- **A truth value is read from its spellings.** -/
theorem reads_flag : Reads readFlag Flag (fun _ reason => reason = "expected a boolean") := by
  refine .of (fun s b => ?_) (fun s fault h => ?_) fun s a b ha hb => ha.trans hb.symm
  · have hflag (b : Bool) : Flag s b ↔ if b then String.ofList (s.map Char.toLower) ∈ ["1", "true", "yes", "on"]
        else String.ofList (s.map Char.toLower) ∈ ["0", "false", "no", "off", ""] := by
      constructor
      · rintro (⟨w, hw, h⟩ | ⟨w, hw, h⟩)
        · exact (ofList_eq_iff.2 h).symm ▸ hw
        · exact (ofList_eq_iff.2 h).symm ▸ hw
      · cases b with
        | true => exact fun h => .yes _ h (ofList_eq_iff.1 rfl)
        | false => exact fun h => .no _ h (ofList_eq_iff.1 rfl)
    rw [hflag]
    unfold readFlag
    simp only
    -- no word is in both lists
    have hboth (w : String) (h : w ∈ ["1", "true", "yes", "on"]) : w ∉ ["0", "false", "no", "off", ""] := by
      revert w
      decide
    split
    · rename_i hyes
      cases b with
      | true => simpa using hyes
      | false => simpa using hboth _ hyes
    · rename_i hyes
      split
      · rename_i hno
        cases b with
        | true => simpa using hyes
        | false => simpa using hno
      · rename_i hno
        cases b with
        | true => simpa using hyes
        | false => simpa using hno
  · unfold readFlag at h
    simp only at h
    split at h
    · cases h
    · split at h
      · cases h
      · obtain rfl := Except.error.inj h
        rfl

/-- A text spells a span of whole seconds. -/
def Seconds (s : List Char) (d : Span) : Prop := Numeral s d.secs ∧ d.secs ≤ wordBound - 1 ∧ d.nanos = 0

/-- **A span is read from its seconds.** -/
theorem reads_seconds :
    Reads ServerConfig.readSeconds Seconds (NumeralFault (wordBound - 1)) := by
  have hnat : Reads (readBounded wordBound) _ _ := reads_natural (wordBound - 1)
  refine .of (fun s d => ?_) (fun s fault h => ?_) fun s a b ha hb => ha.eq hb
  · unfold ServerConfig.readSeconds
    constructor
    · intro h
      split at h
      · rename_i n hn
        have hnum := (hnat.ok s n).1 hn
        split at h
        · obtain rfl := Except.ok.inj h
          exact ⟨hnum.1, hnum.2, rfl⟩
        · cases h
      · cases h
    · rintro ⟨hnum, hle, hnanos⟩
      rw [(hnat.ok s d.secs).2 ⟨hnum, hle⟩]
      simp only
      rw [dif_pos d.secs_lt]
      cases d
      cases hnanos
      rfl
  · unfold ServerConfig.readSeconds at h
    split at h
    · rename_i n hn
      have hnum : Numeral s n ∧ n ≤ wordBound - 1 := (hnat.ok s n).1 hn
      split at h
      · cases h
      · rename_i hlt
        exact absurd (Nat.lt_of_le_pred (by decide) hnum.2) hlt
    · rename_i e he
      obtain rfl := Except.error.inj h
      exact ((hnat.error s e).1 he).2

/-! ## Variables -/

namespace ServerConfig

variable {β : Type} {env : Environment} {v : Variable} {e : ConfigError} {read : List Char → Except ConfigFault β}
  {spells : List Char → β → Prop} {why : List Char → String → Prop}

/-- The environment that the system gives: a variable is unset or has some bytes, and is taken as unset if these are
not text. -/
def Environment.ofBytes (raw : Variable → Option ByteArray) : Environment := fun v => (raw v).bind String.fromUTF8?

theorem ofBytes_eq_some {raw : Variable → Option ByteArray} {text : String} :
    Environment.ofBytes raw v = some text ↔ raw v = some text.toUTF8 := by
  unfold Environment.ofBytes
  cases raw v with
  | none => simp
  | some bytes =>
    simp only [Option.bind_some, String.fromUTF8?, Option.some.injEq]
    constructor
    · intro h
      split at h
      · obtain rfl := Option.some.inj h
        rfl
      · cases h
    · rintro rfl
      exact dif_pos text.isValidUTF8

/-- A variable says a value: the text between its blanks spells it, or the variable is unset and the value is the
default. -/
inductive Holds (env : Environment) (v : Variable) (default : β) (spells : List Char → β → Prop) (b : β) : Prop
  | unset (h : env v = none) (hb : b = default)
  | set (value : String) (t : List Char) (h : env v = some value) (ht : Trimmed value.toList t) (hb : spells t b)

/-- A variable is to blame: it is set, and the text between its blanks spells nothing. -/
structure Bad (env : Environment) (v : Variable) (spells : List Char → β → Prop) (why : List Char → String → Prop)
    (e : ConfigError) : Prop where
  source : e.source = v
  value : env v = some e.value
  fault : ∃ t, Trimmed e.value.toList t ∧ (∀ b, ¬ spells t b) ∧ why t e.fault.message

theorem setting_of_none {default : β} (h : env v = none) : setting env v default read = .ok default := by
  simp only [setting, h]

theorem setting_of_ok {default b : β} {value : String} (h : env v = some value)
    (hr : read (trim value.toList) = .ok b) : setting env v default read = .ok b := by
  simp only [setting, h, hr]

theorem setting_of_error {default : β} {value : String} {fault : ConfigFault} (h : env v = some value)
    (hr : read (trim value.toList) = .error fault) :
    setting env v default read = .error ⟨v, value, fault⟩ := by
  simp only [setting, h, hr]

theorem setting_ok (R : Reads read spells why) {default b : β} :
    setting env v default read = .ok b ↔ Holds env v default spells b := by
  cases hv : env v with
  | none =>
    rw [setting_of_none hv, Except.ok.injEq]
    refine ⟨fun h => .unset hv h.symm, fun h => ?_⟩
    cases h with
    | unset _ hb => exact hb.symm
    | set value t h => cases hv.symm.trans h
  | some value =>
    have hholds : Holds env v default spells b ↔ read (trim value.toList) = .ok b := by
      rw [R.ok]
      constructor
      · rintro (⟨h, -⟩ | ⟨value', t, h, ht, hb⟩)
        · cases hv.symm.trans h
        · obtain rfl := Option.some.inj (hv.symm.trans h)
          exact trimmed_iff.1 ht ▸ hb
      · exact fun hb => .set value _ hv (trimmed_trim _) hb
    rw [hholds]
    cases hr : read (trim value.toList) with
    | ok b' => rw [setting_of_ok hv hr, Except.ok.injEq, Except.ok.injEq]
    | error fault => simp [setting_of_error hv hr]

theorem setting_error (R : Reads read spells why) {default : β} :
    setting env v default read = .error e ↔ Bad env v spells why e := by
  constructor
  · intro h
    cases hv : env v with
    | none => cases (setting_of_none hv).symm.trans h
    | some value =>
      cases hr : read (trim value.toList) with
      | ok b => cases (setting_of_ok hv hr).symm.trans h
      | error fault =>
        obtain rfl := Except.error.inj ((setting_of_error hv hr).symm.trans h)
        exact ⟨rfl, hv, _, trimmed_trim _, (R.error _ _).1 hr⟩
  · rintro ⟨rfl, hv, t, ht, hfault⟩
    rw [trimmed_iff.1 ht] at hfault
    exact setting_of_error hv ((R.error _ _).2 hfault)

/-! ## Settings -/

/-- **The settings that an environment makes**, and what is to blame if there are none. Take any variables, with any
bytes, of which those count as text that are UTF-8.

* There are settings if each of the three variables that are read is unset or spells a value between its blanks: the
  port a number of 16 bits, the flag a truth value, and the timeout a number of 64 bits, in seconds. The settings are
  these values, the host as it is, and a default for what is unset.
* Else the first of the three that is set and spells nothing is to blame. The error has its whole text and the reason,
  which for a number is that it is empty, that a numeral at its front is too large, or that something in it is no
  digit. -/
theorem ofEnvironment_exact (raw : Variable → Option ByteArray) :
    let env := Environment.ofBytes raw
    let Port (s : List Char) (n : Nat) := Numeral s n ∧ n ≤ 65535
    let portHolds := Holds env .port 9990 Port
    let flagHolds := Holds env .awaitExplicitShutdown false Flag
    let timeoutHolds := Holds env .drainTimeoutSecs (Span.ofSecs 30 (by decide)) Seconds
    (∀ v text, env v = some text ↔ raw v = some text.toUTF8) ∧
      (∀ config, ofEnvironment env = .ok config ↔
        config.host = (env .host).getD "0.0.0.0" ∧ portHolds config.port ∧
          flagHolds config.awaitExplicitShutdown ∧ timeoutHolds config.drainTimeout) ∧
      ((∃ config, ofEnvironment env = .ok config) ↔
        (∃ port, portHolds port) ∧ (∃ flag, flagHolds flag) ∧ ∃ timeout, timeoutHolds timeout) ∧
      ∀ e, ofEnvironment env = .error e ↔
        Bad env .port Port (NumeralFault 65535) e ∨
          (∃ port, portHolds port) ∧
            (Bad env .awaitExplicitShutdown Flag (fun _ reason => reason = "expected a boolean") e ∨
              (∃ flag, flagHolds flag) ∧
                Bad env .drainTimeoutSecs Seconds (NumeralFault (2 ^ 64 - 1)) e) := by
  intro env Port portHolds flagHolds timeoutHolds
  have hport : Reads (readBounded 0x1_0000) Port (NumeralFault 65535) := reads_natural 65535
  have hok (config : ServerConfig) : ofEnvironment env = .ok config ↔
      config.host = (env .host).getD "0.0.0.0" ∧ portHolds config.port ∧
        flagHolds config.awaitExplicitShutdown ∧ timeoutHolds config.drainTimeout := by
    simp only [ofEnvironment, bind_eq_ok, setting_ok hport, setting_ok reads_flag, setting_ok reads_seconds, pure,
      Except.pure, Except.ok.injEq]
    constructor
    · rintro ⟨port, hp, flag, hf, timeout, ht, rfl⟩
      exact ⟨rfl, hp, hf, ht⟩
    · obtain ⟨host, port, flag, timeout⟩ := config
      rintro ⟨rfl, hp, hf, ht⟩
      exact ⟨port, hp, flag, hf, timeout, ht, rfl⟩
  refine ⟨fun v text => ofBytes_eq_some, hok, ?_, fun e => ?_⟩
  · constructor
    · rintro ⟨config, h⟩
      obtain ⟨-, hp, hf, ht⟩ := (hok config).1 h
      exact ⟨⟨_, hp⟩, ⟨_, hf⟩, _, ht⟩
    · rintro ⟨⟨port, hp⟩, ⟨flag, hf⟩, timeout, ht⟩
      exact ⟨⟨(env .host).getD "0.0.0.0", port, flag, timeout⟩, (hok _).2 ⟨rfl, hp, hf, ht⟩⟩
  · simp only [ofEnvironment, bind_eq_error, setting_ok hport, setting_ok reads_flag, setting_error hport,
      setting_error reads_flag, setting_error reads_seconds, pure, Except.pure, reduceCtorEq, and_false, exists_false,
      or_false]
    constructor
    · rintro (hp | ⟨port, hp, hf | ⟨flag, hf, ht⟩⟩)
      · exact .inl hp
      · exact .inr ⟨⟨port, hp⟩, .inl hf⟩
      · exact .inr ⟨⟨port, hp⟩, .inr ⟨⟨flag, hf⟩, ht⟩⟩
    · rintro (hp | ⟨⟨port, hp⟩, hf | ⟨⟨flag, hf⟩, ht⟩⟩)
      · exact .inl hp
      · exact .inr ⟨port, hp, .inl hf⟩
      · exact .inr ⟨port, hp, .inr ⟨flag, hf, ht⟩⟩

end ServerConfig
end Sluice
