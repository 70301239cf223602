import Mathlib.Data.Nat.Digits.Defs
import Sluice.Proofs.Readers
import Sluice.Wire.Ticket

/-!
# What is written is read

A reader takes a value from the front of a text and leaves what follows. What is written for a value is read as this
value wherever it stands, as long as no number goes on after it.

* `Spells`: a text is read as a value, whatever follows it. `whole_of_spells`: so it is if nothing follows.
* `scan_escape`, `spells_text`: **every string is read back**, whatever its characters are.
* `spells_natural`, `spells_integer`: **every number of 64 bits is**, without a sign and with one.
* `spells_case`: a name among several is. `spells_uuid`: every identifier is.
-/

namespace Sluice.Json

variable {α : Type} {read : Read α} {a : α} {c : Char} {s text rest ds : List Char} {n : Nat}

/-- No number goes on here. -/
def Stops (rest : List Char) : Prop := ∀ c ∈ rest.head?, isDigit c = false ∧ c ≠ '.' ∧ c ≠ 'e' ∧ c ≠ 'E'

/-- A text is read as a value, and what follows it is left. -/
def Spells (read : Read α) (text : List Char) (a : α) : Prop :=
  ∀ rest, Stops rest → read (text ++ rest) = .ok (a, rest)

theorem stops_nil : Stops [] := nofun

theorem stops_cons (hd : isDigit c = false) (h : c ≠ '.' ∧ c ≠ 'e' ∧ c ≠ 'E') : Stops (c :: s) := by
  intro x hx
  obtain rfl := Option.some.inj hx
  exact ⟨hd, h⟩

theorem whole_of_spells (h : Spells read text a) : whole read text = .ok a := by
  have hr := h [] stops_nil
  rw [List.append_nil] at hr
  unfold whole
  rw [hr]
  rfl

theorem skipSpace_cons (h : isSpace c = false) (s : List Char) : skipSpace (c :: s) = c :: s := by
  unfold skipSpace
  rw [List.dropWhile_cons_of_neg (by simp [h])]

/-! ## Strings -/

theorem scan_go {strict : Bool} {spot next : Spot} (out : List Char) (h : spot.turn strict c s = .go next out) :
    scan strict spot (c :: s) = (scan strict next s).map fun r => (out ++ r.1, r.2) := by
  simp only [scan, h]
  cases scan strict next s <;> rfl

/-- A character that means nothing yet. -/
theorem scan_on {strict : Bool} {spot : Spot} (next : Spot) (h : spot.turn strict c s = .go next []) :
    scan strict spot (c :: s) = scan strict next s := by
  rw [scan_go [] h]
  cases scan strict next s <;> rfl

theorem scan_close {strict : Bool} {spot : Spot} (h : spot.turn strict c s = .close) :
    scan strict spot (c :: s) = .ok ([], s) := by
  simp only [scan, h]

theorem fourBytes_four (a b c d : Char) (s : List Char) : fourBytes (a :: b :: c :: d :: s) = true := by
  have ha := a.utf8Size_pos
  have hb := b.utf8Size_pos
  have hc := c.utf8Size_pos
  have hd := d.utf8Size_pos
  simp only [fourBytes, List.take_succ_cons, List.take_zero, List.foldl_cons, List.foldl_nil]
  exact decide_eq_true (by omega)

/-- A letter after a backslash. -/
theorem scan_letter {d : Char} (h : unescape? d = some c) (hu : d ≠ 'u') (s : List Char) :
    scan true .plain ('\\' :: d :: s) = (scan true .plain s).map fun r => (c :: r.1, r.2) := by
  rw [scan_on .backslash rfl]
  refine scan_go [c] ?_
  simp only [Spot.turn, if_neg hu, h]

/-- The digits of a control character. -/
theorem scan_digits (h : c.toNat < 32) (s : List Char) :
    scan true .plain ('\\' :: 'u' :: '0' :: '0' :: hexDigit (c.toNat / 16) :: hexDigit (c.toNat % 16) :: s) =
      (scan true .plain s).map fun r => (c :: r.1, r.2) := by
  have hhigh : hexValue? (hexDigit (c.toNat / 16)) = some (c.toNat / 16) := hexValue?_hexDigit _ (by omega)
  have hlow : hexValue? (hexDigit (c.toNat % 16)) = some (c.toNat % 16) := hexValue?_hexDigit _ (by omega)
  have hzero : hexValue? '0' = some 0 := rfl
  have hvalue : c.toNat / 16 * 16 + c.toNat % 16 = c.toNat := Nat.div_add_mod' _ _
  rw [scan_on .backslash rfl]
  rw [scan_on (.digits 4 0 none) (by simp [Spot.turn, beginDigits, fourBytes_four])]
  rw [scan_on (.digits 3 0 none) (by simp [Spot.turn, hzero])]
  rw [scan_on (.digits 2 0 none) (by simp [Spot.turn, hzero])]
  rw [scan_on (.digits 1 (c.toNat / 16) none) (by simp [Spot.turn, hhigh])]
  refine scan_go [c] ?_
  simp only [Spot.turn, hlow, hvalue, Nat.le_refl, if_true, endDigits]
  rw [if_neg (by omega), if_neg (by omega), Char.ofNat_toNat]

/-- **A character is read back from what stands for it.** -/
theorem scan_escape (c : Char) (s : List Char) :
    scan true .plain (escape c ++ s) = (scan true .plain s).map fun r => (c :: r.1, r.2) := by
  unfold escape
  split
  · rename_i h
    exact scan_letter (by rw [h]; rfl) (by decide) s
  split
  · rename_i h
    exact scan_letter (by rw [h]; rfl) (by decide) s
  split
  · rename_i h
    exact scan_letter (by rw [h]; rfl) (by decide) s
  split
  · rename_i h
    exact scan_letter (by rw [h]; rfl) (by decide) s
  split
  · rename_i h
    exact scan_letter (by rw [h]; rfl) (by decide) s
  split
  · rename_i h
    exact scan_letter (by rw [h]; rfl) (by decide) s
  split
  · rename_i h
    exact scan_letter (by rw [h]; rfl) (by decide) s
  split
  · rename_i h
    exact scan_digits h s
  · rename_i hquote hslash _ _ _ _ _ hlow
    refine scan_go [c] ?_
    simp only [Spot.turn, if_neg hquote, if_neg hslash, if_neg hlow]

theorem scan_escaped (cs s : List Char) : scan true .plain (cs.flatMap escape ++ '"' :: s) = .ok (cs, s) := by
  induction cs with
  | nil => exact scan_close rfl
  | cons c cs ih =>
    rw [List.flatMap_cons, List.append_assoc, scan_escape, ih]
    rfl

theorem readText_escaped (t : String) (s : List Char) :
    readText (t.toList.flatMap escape ++ '"' :: s) = .ok (t, s) := by
  unfold readText
  rw [scan_escaped]
  show Except.ok (String.ofList t.toList, s) = _
  rw [String.ofList_toList]

theorem textOf_append (t : String) (s : List Char) :
    textOf t ++ s = '"' :: (t.toList.flatMap escape ++ '"' :: s) := by simp [textOf]

/-- **Every string is read back.** -/
theorem spells_text (t : String) : Spells readString (textOf t) t := by
  intro rest _
  rw [textOf_append]
  unfold readString
  rw [skipSpace_cons (by decide)]
  exact readText_escaped t rest

/-! ## Names -/

theorem spells_spelling {pick : String → Option α} {t : String} (h : pick t = some a) :
    Spells (readSpelling pick) (textOf t) a := by
  intro rest hrest
  unfold readSpelling
  rw [spells_text t rest hrest]
  simp only [bind, Except.bind, h]
  rfl

/-- **A name is read as what it is picked for.** -/
theorem spells_case {pick : String → Option α} {t : String} (h : pick t = some a) :
    Spells (readCase pick) (textOf t) a := by
  intro rest hrest
  have hspell := spells_spelling h rest hrest
  rw [textOf_append] at hspell ⊢
  unfold readCase
  rw [skipSpace_cons (by decide)]
  exact hspell

/-! ## Numbers -/

theorem isDigit_of_isDigit (h : c.isDigit = true) : isDigit c = true := by
  simp only [isDigit, Bool.and_eq_true, decide_eq_true_eq]
  exact isDigit_iff.1 h

theorem isDigit_natural (h : c ∈ naturalText n) : isDigit c = true :=
  isDigit_of_isDigit (Nat.isDigit_of_mem_toDigits (by decide) (by decide) h)

/-- A number has a first digit. -/
theorem natural_eq_cons (n : Nat) : ∃ c cs, naturalText n = c :: cs ∧ isDigit c = true := by
  obtain ⟨c, cs, hcs⟩ := List.exists_cons_of_ne_nil (Nat.toDigits_ne_nil (n := n) (b := 10))
  exact ⟨c, cs, hcs, isDigit_natural (hcs ▸ List.mem_cons_self)⟩

theorem decimalValue_natural (n : Nat) : decimalValue (naturalText n) = n := by
  have hstep : (fun (n : Nat) (c : Char) => n * 10 + digitValue c) =
      fun sofar c => 10 * sofar + (c.toNat - '0'.toNat) := by
    funext n c
    rw [Nat.mul_comm]
    rfl
  unfold decimalValue
  rw [hstep]
  exact Nat.ofDigitChars_toDigits (by decide) (by decide)

/-- No number but zero begins with a zero. -/
theorem natural_head (h : 0 < n) : (naturalText n).head? ≠ some '0' := by
  induction n using Nat.strong_induction_on with
  | _ n ih =>
    unfold naturalText
    rw [Nat.toDigits_eq_if (by decide)]
    split
    · rename_i hlt
      have hdigit : ∀ k < 10, 0 < k → k.digitChar ≠ '0' := by decide
      simpa using hdigit n hlt h
    · rename_i hge
      have hhead := ih (n / 10) (by omega) (by omega)
      rw [List.head?_append]
      cases hd : (Nat.toDigits 10 (n / 10)).head? with
      | none => exact absurd (List.head?_eq_none_iff.1 hd) Nat.toDigits_ne_nil
      | some d =>
        unfold naturalText at hhead
        rw [hd] at hhead
        exact hhead

theorem takeWhile_digits (hd : ∀ c ∈ ds, isDigit c = true) (hr : Stops rest) :
    (ds ++ rest).takeWhile isDigit = ds ∧ (ds ++ rest).dropWhile isDigit = rest := by
  have htake : rest.takeWhile isDigit = [] := by
    cases rest with
    | nil => rfl
    | cons c rest => simp [(hr c rfl).1]
  have hdrop : rest.dropWhile isDigit = rest := by
    cases rest with
    | nil => rfl
    | cons c rest => simp [(hr c rfl).1]
  rw [List.takeWhile_append_of_pos hd, List.dropWhile_append_of_pos hd, htake, hdrop, List.append_nil]
  exact ⟨rfl, rfl⟩

/-- **The digits of a number are read to their end.** -/
theorem readUnsigned_natural (minus : Bool) (n : Nat) (hr : Stops rest) :
    readUnsigned minus (naturalText n ++ rest) = integer minus (naturalText n) rest := by
  obtain ⟨c, cs, hcs, hc⟩ := natural_eq_cons n
  have hdigits : ∀ x ∈ naturalText n, isDigit x = true := fun x hx => isDigit_natural hx
  obtain ⟨htake, hdrop⟩ := takeWhile_digits hdigits hr
  -- a zero stands alone
  have hzero : ¬ (c = '0' ∧ (cs ++ rest).head?.any isDigit = true) := by
    rintro ⟨rfl, hnext⟩
    rcases Nat.eq_zero_or_pos n with rfl | hn
    · obtain ⟨-, rfl⟩ := List.cons.inj hcs
      cases rest with
      | nil => cases hnext
      | cons d rest =>
        have hd : isDigit d = true := hnext
        rw [(hr d rfl).1] at hd
        cases hd
    · exact natural_head hn (by rw [hcs]; rfl)
  rw [hcs] at htake hdrop ⊢
  rw [List.cons_append] at htake hdrop ⊢
  unfold readUnsigned
  simp only [hc, Bool.not_true, Bool.false_eq_true, if_false, hzero, htake, hdrop]
  split
  · exact absurd rfl (hr _ rfl).2.1
  · exact absurd rfl (hr _ rfl).2.2.1
  · exact absurd rfl (hr _ rfl).2.2.2
  · rfl

theorem isSpace_of_isDigit (h : isDigit c = true) : isSpace c = false := by
  cases hs : isSpace c with
  | false => rfl
  | true =>
    simp only [isSpace, Bool.or_eq_true, beq_iff_eq] at hs
    rcases hs with ((rfl | rfl) | rfl) | rfl <;> cases h

theorem readNumeric_cons {pick : Number → Option α} {k : Number} (hc : c = '-' ∨ isDigit c = true)
    (h : readNumber (c :: s) = .ok (k, rest)) (ha : pick k = some a) :
    readNumeric pick (c :: s) = .ok (a, rest) := by
  have hspace : isSpace c = false := by
    rcases hc with rfl | hc
    · rfl
    · exact isSpace_of_isDigit hc
  unfold readNumeric
  rw [skipSpace_cons hspace]
  simp only [if_pos hc, h, bind, Except.bind, ha]
  rfl

theorem readNumber_natural (h : n < wordBound) (hr : Stops rest) :
    readNumber (naturalText n ++ rest) = .ok (.natural n, rest) := by
  have hread : readNumber (naturalText n ++ rest) = readUnsigned false (naturalText n ++ rest) := by
    unfold readNumber
    split
    · rename_i r he
      obtain ⟨c, cs, hcs, hc⟩ := natural_eq_cons n
      rw [hcs] at he
      obtain rfl := (List.cons.inj he).1
      cases hc
    · rfl
  rw [hread, readUnsigned_natural false n hr]
  unfold integer
  simp only [decimalValue_natural]
  rw [if_neg (by omega)]
  rfl

theorem readNumeric_natural {pick : Number → Option α} (h : n < wordBound) (hr : Stops rest)
    (ha : pick (.natural n) = some a) : readNumeric pick (naturalText n ++ rest) = .ok (a, rest) := by
  have hnumber := readNumber_natural h hr
  obtain ⟨c, cs, hcs, hc⟩ := natural_eq_cons n
  rw [hcs] at hnumber ⊢
  exact readNumeric_cons (.inr hc) hnumber ha

/-- **Every natural number of 64 bits is read back.** -/
theorem spells_natural (h : n < wordBound) : Spells readNat (naturalText n) n :=
  fun _ hr => readNumeric_natural h hr rfl

/-- **Every integer of 64 bits is read back.** -/
theorem spells_integer {i : Int} (hlow : -(signedBound : Int) ≤ i) (hhigh : i < signedBound) :
    Spells readInt (integerText i) i := by
  intro rest hr
  have hbounds : signedBound < wordBound := by decide
  cases i with
  | ofNat n =>
    have hlt : n < signedBound := by simpa using hhigh
    exact readNumeric_natural (n := n) (by omega) hr (if_pos hlt)
  | negSucc n =>
    have hle : n + 1 ≤ signedBound := by omega
    have hnumber : readNumber ('-' :: (naturalText (n + 1) ++ rest)) = .ok (.negative (n + 1), rest) := by
      show readUnsigned true (naturalText (n + 1) ++ rest) = _
      rw [readUnsigned_natural true (n + 1) hr]
      unfold integer
      simp only [decimalValue_natural]
      rw [if_neg (by omega), if_neg (by simp), if_neg (by omega)]
    exact readNumeric_cons (.inl rfl) hnumber rfl

/-! ## Values in range -/

/-- Whatever is read is of this kind. -/
def Yields (read : Read α) (P : α → Prop) : Prop := ∀ s a rest, read s = .ok (a, rest) → P a

/-- A number that is kept apart has 64 bits. -/
def Number.Fits : Number → Prop
  | .natural n => n < wordBound
  | .negative n => n ≤ signedBound
  | .real => True

theorem finish_real {a : Scaled} {k : Number} (h : a.finish s = .ok (k, rest)) : k = .real := by
  unfold Scaled.finish at h
  split at h
  · cases h
  · cases h
    rfl

theorem readExponentDigits_real {a : Scaled} {plus : Bool} {k : Number}
    (h : readExponentDigits a plus s = .ok (k, rest)) : k = .real := by
  unfold readExponentDigits at h
  split at h
  · cases h
  · split at h
    · cases h
    · simp only at h
      split at h
      · split at h
        · cases h
        · cases h
          rfl
      · exact finish_real h

theorem readExponent_real {a : Scaled} {k : Number} (h : readExponent a s = .ok (k, rest)) : k = .real := by
  unfold readExponent at h
  split at h
  · exact readExponentDigits_real h
  · exact readExponentDigits_real h
  · exact readExponentDigits_real h

theorem readFraction_real {a : Scaled} {k : Number} (h : readFraction a s = .ok (k, rest)) : k = .real := by
  unfold readFraction at h
  simp only at h
  split at h
  · cases h
  · unfold readScale at h
    split at h
    · exact readExponent_real h
    · exact readExponent_real h
    · exact finish_real h

theorem readUnsigned_fits {minus : Bool} {k : Number} (h : readUnsigned minus s = .ok (k, rest)) : k.Fits := by
  unfold readUnsigned at h
  split at h
  · cases h
  · split at h
    · cases h
    split at h
    · cases h
    simp only at h
    split at h
    · rw [readFraction_real h]
      trivial
    · rw [readExponent_real h]
      trivial
    · rw [readExponent_real h]
      trivial
    · unfold integer at h
      simp only at h
      split at h
      · rw [finish_real h]
        trivial
      rename_i hword
      split at h
      · cases h
        exact Nat.lt_of_not_le hword
      split at h
      · cases h
        trivial
      · rename_i hneg
        cases h
        exact Nat.le_of_not_lt fun hlt => hneg (.inr hlt)

theorem readNumber_fits {k : Number} (h : readNumber s = .ok (k, rest)) : k.Fits := by
  unfold readNumber at h
  split at h
  · exact readUnsigned_fits h
  · exact readUnsigned_fits h

theorem yields_numeric {pick : Number → Option α} {P : α → Prop} (h : ∀ k a, k.Fits → pick k = some a → P a) :
    Yields (readNumeric pick) P := by
  intro s a rest hr
  unfold readNumeric at hr
  split at hr
  · cases hr
  · split at hr
    · obtain ⟨⟨k, r⟩, hk, hr⟩ := bind_eq_ok.1 hr
      simp only at hr
      split at hr
      · rename_i hp
        cases hr
        exact h k a (readNumber_fits hk) hp
      · cases hr
    · cases hr

/-- **What is read as a natural number has 64 bits.** -/
theorem yields_nat : Yields readNat (· < wordBound) := by
  refine yields_numeric fun k n hk hp => ?_
  cases k with
  | natural k =>
    obtain rfl := Option.some.inj hp
    exact hk
  | negative k => cases hp
  | real => cases hp

/-- **What is read as an integer has 64 bits**, of which one is the sign. -/
theorem yields_int : Yields readInt fun i => -(signedBound : Int) ≤ i ∧ i < signedBound := by
  refine yields_numeric fun k i hk hp => ?_
  cases k with
  | natural n =>
    simp only at hp
    split at hp
    · rename_i hlt
      obtain rfl := Option.some.inj hp
      exact ⟨by omega, by exact_mod_cast hlt⟩
    · cases hp
  | negative n =>
    obtain rfl := Option.some.inj hp
    have hle : n ≤ signedBound := hk
    have hpos : 0 < signedBound := by decide
    exact ⟨by omega, by omega⟩
  | real => cases hp

end Sluice.Json

namespace Sluice.Uuid

/-! ## Identifiers -/

theorem number?_append (acc : Nat) (s t : List Char) :
    number? acc (s ++ t) = (number? acc s).bind fun n => number? n t := by
  induction s generalizing acc with
  | nil => rfl
  | cons c s ih =>
    simp only [List.cons_append, number?, bind]
    cases hexValue? c with
    | none => rfl
    | some d => exact ih _

theorem number?_digits (width n acc : Nat) :
    number? acc (digits width n) = some (acc * 16 ^ width + n % 16 ^ width) := by
  induction width generalizing n acc with
  | zero => simp [digits, number?, Nat.mod_one]
  | succ width ih =>
    have hlast : hexValue? (hexDigit (n % 16)) = some (n % 16) := hexValue?_hexDigit _ (Nat.mod_lt _ (by decide))
    have hmod : n % 16 ^ (width + 1) = n / 16 % 16 ^ width * 16 + n % 16 := by
      rw [Nat.pow_succ', Nat.mod_mul]
      ring
    rw [digits, number?_append, ih, Option.bind_some]
    simp only [number?, hlast, bind, Option.bind_some, hmod]
    congr 1
    ring

theorem length_digits (width n : Nat) : (digits width n).length = width := by
  induction width generalizing n with
  | zero => rfl
  | succ width ih => simp [digits, ih]

theorem ofPlain?_plain (u : Uuid) : ofPlain? u.plain = some u := by
  have hpow : (16 : Nat) ^ 32 = 0x1_0000_0000_0000_0000_0000_0000_0000_0000 := by norm_num
  have hmod : u.value % 16 ^ 32 = u.value := Nat.mod_eq_of_lt (hpow ▸ u.value_lt)
  have hnumber : number? 0 u.plain = some u.value := by
    rw [plain, number?_digits, hmod, Nat.zero_mul, Nat.zero_add]
  have hlen : u.plain.length = 32 := length_digits 32 u.value
  unfold ofPlain?
  rw [hlen, hnumber]
  simp only [ne_eq, not_true, if_false, bind, Option.bind_some]
  exact dif_pos u.value_lt

theorem ofHyphenated?_grouped {a b c d e : List Char} (ha : a.length = 8) (hb : b.length = 4) (hc : c.length = 4)
    (hd : d.length = 4) (he : e.length = 12) :
    ofHyphenated? (a ++ '-' :: (b ++ '-' :: (c ++ '-' :: (d ++ '-' :: e)))) =
      ofPlain? (a ++ (b ++ (c ++ (d ++ e)))) := by
  unfold ofHyphenated?
  rw [if_pos]
  · congr 1
    simp (disch := omega) [List.drop_append, List.drop_of_length_le, ha, hb, hc, hd]
  · simp [ha, hb, hc, hd, he]

/-- **Every identifier is read back.** -/
theorem ofChars?_chars (u : Uuid) : ofChars? u.chars = some u := by
  have hlen : u.plain.length = 32 := length_digits 32 u.value
  have hchars : u.chars.length = 36 := by simp [chars, hlen]
  have hplain : u.plain.take 8 ++ ((u.plain.drop 8).take 4 ++ ((u.plain.drop 12).take 4 ++
      ((u.plain.drop 16).take 4 ++ u.plain.drop 20))) = u.plain := by
    have hgroup (k n : Nat) : (u.plain.drop k).take n ++ u.plain.drop (k + n) = u.plain.drop k := by
      rw [← List.drop_drop, List.take_append_drop]
    rw [hgroup 16 4, hgroup 12 4, hgroup 8 4, List.take_append_drop]
  unfold ofChars?
  rw [if_neg (by rw [hchars]; decide), if_pos hchars, chars]
  rw [ofHyphenated?_grouped (by simp [hlen]) (by simp [hlen]) (by simp [hlen]) (by simp [hlen]) (by simp [hlen])]
  rw [hplain, ofPlain?_plain]

end Sluice.Uuid

namespace Sluice

open Json

theorem spells_uuid (u : Uuid) : Spells Uuid.read u.encode u := by
  refine spells_spelling ?_
  show Uuid.ofChars? u.text.toList = some u
  rw [Uuid.text, String.toList_ofList]
  exact u.ofChars?_chars

/-- **The identity of a permit is read back.** -/
theorem spells_permitId (id : PermitId) : Spells PermitId.read id.uuid.encode id := by
  intro rest hr
  unfold PermitId.read
  rw [spells_uuid id.uuid rest hr]
  rfl

/-- **The identity of a gate is read back.** -/
theorem spells_gateId (id : GateId) : Spells GateId.read id.uuid.encode id := by
  intro rest hr
  unfold GateId.read
  rw [spells_uuid id.uuid rest hr]
  rfl

end Sluice
