import Sluice.Proofs.Records

/-!
# The grammar of JSON

What a text is, said without a reader: strings with their escapes, numbers, and values within values to any depth,
with spaces wherever they may stand.

* `Writes`: what stands between the quotes of a string, and the characters that it writes. `Loose`: the same for a
  string that nobody reads.
* `NumberText`: numbers of any size. `Listed`, `Membered`: the layout of a list and of an object.
* `Value`: the texts of all values.
* `names_of_writes`: **a string is read as what it writes**, with whatever escapes.
* `Value.passes`: **every value is passed over**, and leaves the brackets open that were open before.
-/

namespace Sluice.Json

variable {κ : Type} {s text rest ds ws : List Char} {cs : List Char} {c : Char} {n : Nat} {first : Bool}
  {opened opened' : List Bracket} {mode mode' : Mode}

instance (ws : List Char) : Decidable (Blank ws) := List.decidableBAll (fun c => isSpace c = true) ws

/-! ## Strings -/

/-- Four hexadecimal digits, and their number. -/
inductive HexFour : List Char → Nat → Prop
  | mk {a b c d : Char} {i j k l : Nat} (ha : hexValue? a = some i) (hb : hexValue? b = some j)
      (hc : hexValue? c = some k) (hd : hexValue? d = some l) :
      HexFour [a, b, c, d] (((i * 16 + j) * 16 + k) * 16 + l)

/-- What stands between the quotes of a string, and the characters that it writes: each as itself, as a letter after
a backslash, as a number, or as a pair of surrogates. -/
inductive Writes : List Char → List Char → Prop
  | nil : Writes [] []
  | plain {c : Char} {s cs : List Char} (hq : c ≠ '"') (hb : c ≠ '\\') (hc : 32 ≤ c.toNat) (h : Writes s cs) :
      Writes (c :: s) (c :: cs)
  | letter {d c : Char} {s cs : List Char} (hd : unescape? d = some c) (h : Writes s cs) :
      Writes ('\\' :: d :: s) (c :: cs)
  | number {ds s cs : List Char} {n : Nat} (hn : HexFour ds n) (hs : n < 0xD800 ∨ 0xDFFF < n) (h : Writes s cs) :
      Writes ('\\' :: 'u' :: (ds ++ s)) (Char.ofNat n :: cs)
  | pair {ds es s cs : List Char} {n k : Nat} (hn : HexFour ds n) (hlead : 0xD800 ≤ n ∧ n ≤ 0xDBFF)
      (hk : HexFour es k) (htrail : 0xDC00 ≤ k ∧ k ≤ 0xDFFF) (h : Writes s cs) :
      Writes ('\\' :: 'u' :: (ds ++ '\\' :: 'u' :: (es ++ s))) (ofPair n k :: cs)

/-- What may stand between the quotes of a string that nobody reads: its surrogates need not be in pairs. -/
inductive Loose : List Char → Prop
  | nil : Loose []
  | plain {c : Char} {s : List Char} (hq : c ≠ '"') (hb : c ≠ '\\') (hc : 32 ≤ c.toNat) (h : Loose s) :
      Loose (c :: s)
  | letter {d c : Char} {s : List Char} (hd : unescape? d = some c) (h : Loose s) : Loose ('\\' :: d :: s)
  | number {ds s : List Char} {n : Nat} (hn : HexFour ds n) (h : Loose s) : Loose ('\\' :: 'u' :: (ds ++ s))

/-- The digits of a number are read, and then what the number means. -/
theorem scan_hexFour {spot next : Spot} {lead : Option Nat} (out : List Char)
    (hu : ∀ r, spot.turn true 'u' r = beginDigits lead r) (h : HexFour ds n)
    (he : endDigits true n lead = .go next out) (s : List Char) :
    scan true spot ('u' :: (ds ++ s)) = (scan true next s).map fun r => (out ++ r.1, r.2) := by
  obtain ⟨ha, hb, hc, hd⟩ := h
  simp only [List.cons_append, List.nil_append]
  rw [scan_on (.digits 4 0 lead) (by rw [hu, beginDigits, fourBytes_four, if_pos rfl])]
  rw [scan_on (.digits 3 _ lead) (by simp only [Spot.turn, ha]; rfl)]
  rw [scan_on (.digits 2 _ lead) (by simp only [Spot.turn, hb]; rfl)]
  rw [scan_on (.digits 1 _ lead) (by simp only [Spot.turn, hc]; rfl)]
  refine scan_go out ?_
  simp only [Spot.turn, hd, Nat.le_refl, if_true, Nat.zero_mul, Nat.zero_add]
  exact he

theorem ne_u_of_unescape {d : Char} (h : unescape? d = some c) : d ≠ 'u' := by
  rintro rfl
  cases h

/-- **A string is read as what it writes.** -/
theorem scan_of_writes (h : Writes text cs) (s : List Char) : scan true .plain (text ++ '"' :: s) = .ok (cs, s) := by
  induction h with
  | nil => exact scan_close rfl
  | @plain c s' cs hq hb hc _ ih =>
    have hturn (r : List Char) : Spot.plain.turn true c r = .go .plain [c] := by
      simp only [Spot.turn, if_neg hq, if_neg hb, if_neg (Nat.not_lt.2 hc)]
    rw [List.cons_append, scan_go [c] (hturn _), ih]
    rfl
  | letter hd _ ih =>
    rw [List.cons_append, List.cons_append, scan_letter hd (ne_u_of_unescape hd), ih]
    rfl
  | @number ds _ _ n hn hs _ ih =>
    have he : endDigits true n none = .go .plain [Char.ofNat n] := by
      simp only [endDigits, true_and]
      rw [if_neg (by omega), if_neg (by omega)]
    rw [List.cons_append, scan_on .backslash rfl, List.cons_append, List.append_assoc,
      scan_hexFour _ (fun _ => rfl) hn he, ih]
    rfl
  | @pair ds es _ _ n k hn hlead hk htrail _ ih =>
    have hpart : endDigits true n none = .go (.partner n) [] := by
      simp only [endDigits, true_and]
      rw [if_neg (by omega), if_pos hlead]
    have hwhole : endDigits true k (some n) = .go .plain [ofPair n k] := by
      simp only [endDigits, if_pos htrail]
    rw [List.cons_append, scan_on .backslash rfl, List.cons_append, List.append_assoc,
      scan_hexFour _ (fun _ => rfl) hn hpart, List.cons_append, scan_on (.partnerMark n) rfl, List.cons_append,
      List.append_assoc, scan_hexFour _ (fun _ => rfl) hk hwhole, ih]
    rfl

theorem names_of_writes {name : String} (h : Writes text name.toList) : Names (text ++ ['"']) name := by
  intro rest
  unfold readText
  rw [List.append_assoc, List.singleton_append, scan_of_writes h]
  show Except.ok (String.ofList name.toList, rest) = _
  rw [String.ofList_toList]

/-- Characters that need no escape write themselves. -/
theorem writes_plain (h : (cs.all fun c => c ≠ '"' && c ≠ '\\' && 32 ≤ c.toNat) = true) : Writes cs cs := by
  induction cs with
  | nil => exact .nil
  | cons c cs ih =>
    simp only [List.all_cons, Bool.and_eq_true, decide_eq_true_eq] at h
    obtain ⟨⟨⟨hq, hb⟩, hc⟩, hrest⟩ := h
    exact .plain hq hb hc (ih hrest)

/-! ## Numbers -/

/-- One digit or more. -/
structure DigitRun (ds : List Char) : Prop where
  nonempty : ds ≠ []
  digits : ∀ c ∈ ds, isDigit c = true

/-- The digits before the point: a zero stands alone. -/
inductive WholeText : List Char → Prop
  | zero : WholeText ['0']
  | digits {c : Char} {ds : List Char} (hc : isDigit c = true) (h0 : c ≠ '0') (h : ∀ d ∈ ds, isDigit d = true) :
      WholeText (c :: ds)

/-- The point and the digits after it, if there are any. -/
inductive FractionText : List Char → Prop
  | none : FractionText []
  | point {ds : List Char} (h : DigitRun ds) : FractionText ('.' :: ds)

/-- The exponent, if there is one. -/
inductive ExponentText : List Char → Prop
  | none : ExponentText []
  | unsigned {e : Char} {ds : List Char} (he : e = 'e' ∨ e = 'E') (h : DigitRun ds) : ExponentText (e :: ds)
  | signed {e sign : Char} {ds : List Char} (he : e = 'e' ∨ e = 'E') (hs : sign = '+' ∨ sign = '-')
      (h : DigitRun ds) : ExponentText (e :: sign :: ds)

/-- A number, however great or small. -/
inductive NumberText : List Char → Prop
  | plus {w f e : List Char} (hw : WholeText w) (hf : FractionText f) (he : ExponentText e) :
      NumberText (w ++ (f ++ e))
  | minus {w f e : List Char} (hw : WholeText w) (hf : FractionText f) (he : ExponentText e) :
      NumberText ('-' :: (w ++ (f ++ e)))

/-! ## Values -/

/-- The texts of a list's items one after another, and the bracket that closes it. -/
inductive Listed : Bool → List (List Char) → List Char → Prop
  | close {first : Bool} {ws : List Char} (h : Blank ws) : Listed first [] (ws ++ [']'])
  | item {first : Bool} {gap text more : List Char} {texts : List (List Char)} (hg : Gap first gap)
      (h : Listed false texts more) : Listed first (text :: texts) (gap ++ (text ++ more))

/-- The members of an object one after another, and the bracket that closes it. `Key` says what stands between the
quotes of a key. -/
inductive Membered (Key : List Char → κ → Prop) : Bool → List (κ × List Char) → List Char → Prop
  | close {first : Bool} {ws : List Char} (h : Blank ws) : Membered Key first [] (ws ++ ['\x7d'])
  | member {first : Bool} {gap key ws ws' text more : List Char} {name : κ} {ms : List (κ × List Char)}
      (hg : Gap first gap) (hk : Key key name) (hws : Blank ws) (hws' : Blank ws') (h : Membered Key false ms more) :
      Membered Key first ((name, text) :: ms) (gap ++ '"' :: (key ++ '"' :: (ws ++ ':' :: (ws' ++ (text ++ more)))))

/-- The text of a value of any kind, with values in it to any depth. -/
inductive Value : List Char → Prop
  | null : Value ['n', 'u', 'l', 'l']
  | yes : Value ['t', 'r', 'u', 'e']
  | no : Value ['f', 'a', 'l', 's', 'e']
  | number {text : List Char} (h : NumberText text) : Value text
  | string {text : List Char} (h : Loose text) : Value ('"' :: (text ++ ['"']))
  | list {texts : List (List Char)} {text : List Char} (h : Listed true texts text) (hv : ∀ t ∈ texts, Value t) :
      Value ('[' :: text)
  | object {ms : List (Unit × List Char)} {text : List Char} (h : Membered (fun key _ => Loose key) true ms text)
      (hv : ∀ m ∈ ms, Value m.2) : Value ('\x7b' :: text)

theorem Listed.stops {texts : List (List Char)} (h : Listed false texts text) (rest : List Char) :
    Stops (text ++ rest) := by
  cases h with
  | close hb =>
    rw [List.append_assoc]
    exact stops_blank hb (stops_cons (by decide) (by decide))
  | item hg =>
    rw [List.append_assoc]
    exact hg.stops _

theorem Membered.stops {Key : List Char → κ → Prop} {ms : List (κ × List Char)} (h : Membered Key false ms text)
    (rest : List Char) : Stops (text ++ rest) := by
  cases h with
  | close hb =>
    rw [List.append_assoc]
    exact stops_blank hb (stops_cons (by decide) (by decide))
  | member hg =>
    rw [List.append_assoc]
    exact hg.stops _

theorem begins_of_isDigit (h : isDigit c = true) (s : List Char) : Begins (c :: s) := by
  refine ⟨c, s, rfl, isSpace_of_isDigit h, ?_⟩
  rintro rfl
  exact absurd h (by decide)

theorem NumberText.begins (h : NumberText text) : Begins text := by
  cases h with
  | plus hw =>
    cases hw with
    | zero => exact begins_of_isDigit (by decide) _
    | digits hc => exact begins_of_isDigit hc _
  | minus => exact ⟨_, _, rfl, by decide, by decide⟩

theorem Value.begins (h : Value text) : Begins text := by
  cases h with
  | number h => exact h.begins
  | null | yes | no | string | list | object => exact ⟨_, _, rfl, by decide, by decide⟩

/-! ## Passing over a value -/

/-- How a walk goes on once a value has ended: it is over if no bracket is open. -/
def resume : List Bracket → List Char → Except Fault (List Char)
  | [], rest => .ok rest
  | b :: bs, rest => skip .after (b :: bs) rest

/-- A text is passed over as a value, whatever brackets are open. -/
def Passes (text : List Char) : Prop :=
  ∀ opened rest, Stops rest → skip .value opened (text ++ rest) = resume opened rest

theorem skip_next (next : Mode) (h : mode.feed c s opened = .next next opened') :
    skip mode opened (c :: s) = skip next opened' s := by
  rw [skip, h]

theorem skip_closed (h : mode.feed c s opened = closeValue opened') :
    skip mode opened (c :: s) = resume opened' s := by
  rw [skip, h]
  cases opened' <;> rfl

/-- What a mode takes and stays in. -/
theorem skip_stay (hm : ∀ c ∈ ds, ∀ r, mode.feed c r opened = .next mode opened) (s : List Char) :
    skip mode opened (ds ++ s) = skip mode opened s := by
  induction ds with
  | nil => rfl
  | cons c ds ih =>
    rw [List.cons_append, skip_next mode (hm c List.mem_cons_self _)]
    exact ih fun d hd => hm d (List.mem_cons_of_mem c hd)

/-! ### Words and strings -/

theorem skip_word (hne : ws ≠ []) (s : List Char) : skip (.word ws) opened (ws ++ s) = resume opened s := by
  induction ws with
  | nil => exact absurd rfl hne
  | cons w ws ih =>
    cases ws with
    | nil => exact skip_closed (if_pos rfl)
    | cons w' ws =>
      have hfirst (r : List Char) : (Mode.word (w :: w' :: ws)).feed w r opened = .next (.word (w' :: ws)) opened :=
        if_pos rfl
      rw [List.cons_append, skip_next (.word (w' :: ws)) (hfirst _)]
      exact ih (List.cons_ne_nil w' ws)

theorem skip_spot {spot : Spot} {isKey : Bool} (next : Spot) (out : List Char)
    (h : spot.turn false c s = .go next out) :
    skip (.text spot isKey) opened (c :: s) = skip (.text next isKey) opened s :=
  skip_next _ (by simp only [Mode.feed, h])

theorem skip_hexFour {isKey : Bool} (h : HexFour ds n) (s : List Char) :
    skip (.text .backslash isKey) opened ('u' :: (ds ++ s)) = skip (.text .plain isKey) opened s := by
  obtain ⟨ha, hb, hc, hd⟩ := h
  simp only [List.cons_append, List.nil_append]
  rw [skip_spot (.digits 4 0 none) [] (by simp only [Spot.turn, if_true, beginDigits, fourBytes_four])]
  rw [skip_spot (.digits 3 _ none) [] (by simp only [Spot.turn, ha]; rfl)]
  rw [skip_spot (.digits 2 _ none) [] (by simp only [Spot.turn, hb]; rfl)]
  rw [skip_spot (.digits 1 _ none) [] (by simp only [Spot.turn, hc]; rfl)]
  rw [skip_spot .plain [Char.ofNat _] (by simp only [Spot.turn, hd, Nat.le_refl, if_true]; rfl)]

/-- **A string is passed over** to its closing quote. -/
theorem skip_loose {isKey : Bool} (h : Loose text) (s : List Char) :
    skip (.text .plain isKey) opened (text ++ '"' :: s) = if isKey then skip .colon opened s else resume opened s := by
  induction h with
  | nil =>
    cases isKey with
    | true => exact skip_next _ rfl
    | false => exact skip_closed rfl
  | @plain c s' hq hb hc _ ih =>
    have hturn (r : List Char) : Spot.plain.turn false c r = .go .plain [c] := by
      simp only [Spot.turn, if_neg hq, if_neg hb, if_neg (Nat.not_lt.2 hc)]
    rw [List.cons_append, skip_spot _ _ (hturn _), ih]
  | @letter d c s' hd _ ih =>
    have hturn (r : List Char) : Spot.backslash.turn false d r = .go .plain [c] := by
      simp only [Spot.turn, if_neg (ne_u_of_unescape hd), hd]
    rw [List.cons_append, skip_spot .backslash [] rfl, List.cons_append, skip_spot _ _ (hturn _), ih]
  | number hn _ ih =>
    rw [List.cons_append, skip_spot .backslash [] rfl, List.cons_append, List.append_assoc, skip_hexFour hn, ih]

/-! ### Numbers -/

theorem feedValue_digit (h : isDigit c = true) (h0 : c ≠ '0') : feedValue c opened = .next .wholeDigits opened := by
  have hne (d : Char) (hd : isDigit d = false) : c ≠ d := by
    rintro rfl
    rw [h] at hd
    cases hd
  unfold feedValue
  rw [isSpace_of_isDigit h, if_neg Bool.false_ne_true, if_neg (hne 'n' rfl), if_neg (hne 't' rfl),
    if_neg (hne 'f' rfl), if_neg (hne '-' rfl), if_neg h0, if_pos h]

theorem skip_digits (hm : mode = .wholeDigits ∨ mode = .partDigits ∨ mode = .exponentDigits)
    (h : ∀ d ∈ ds, isDigit d = true) (s : List Char) : skip mode opened (ds ++ s) = skip mode opened s := by
  refine skip_stay (fun d hd r => ?_) s
  rcases hm with rfl | rfl | rfl <;> exact if_pos (h d hd)

/-- The digits before the point, at the start of a value or after a sign. -/
theorem skip_whole (h : WholeText text) (hm : mode = .value ∨ mode = .sign) (s : List Char) :
    ∃ mode', (mode' = .zero ∨ mode' = .wholeDigits) ∧ skip mode opened (text ++ s) = skip mode' opened s := by
  cases h with
  | zero =>
    refine ⟨.zero, .inl rfl, skip_next _ ?_⟩
    rcases hm with rfl | rfl <;> rfl
  | @digits c ds hc h0 h =>
    refine ⟨.wholeDigits, .inr rfl, ?_⟩
    have hfirst : mode.feed c (ds ++ s) opened = .next .wholeDigits opened := by
      rcases hm with rfl | rfl
      · exact feedValue_digit hc h0
      · simp only [Mode.feed, if_neg h0, if_pos hc]
    rw [List.cons_append, skip_next _ hfirst]
    exact skip_digits (.inl rfl) h s

/-- The digits after the point, and no more of them. -/
theorem skip_fraction (h : FractionText text) (hm : mode = .zero ∨ mode = .wholeDigits) (s : List Char) :
    ∃ mode', (mode' = .zero ∨ mode' = .wholeDigits ∨ mode' = .partDigits) ∧
      skip mode opened (text ++ s) = skip mode' opened s := by
  cases h with
  | none => exact ⟨mode, hm.imp_right .inl, rfl⟩
  | @point ds h =>
    refine ⟨.partDigits, .inr (.inr rfl), ?_⟩
    obtain ⟨c, ds, rfl⟩ := List.exists_cons_of_ne_nil h.nonempty
    obtain ⟨hc, hds⟩ := List.forall_mem_cons.1 h.digits
    have hpoint : mode.feed '.' (c :: ds ++ s) opened = .next .point opened := by
      rcases hm with rfl | rfl <;> rfl
    have hfirst (r : List Char) : Mode.point.feed c r opened = .next .partDigits opened := if_pos hc
    rw [List.cons_append, skip_next _ hpoint, List.cons_append, skip_next _ (hfirst _)]
    exact skip_digits (.inr (.inl rfl)) hds s

/-- A number ends where none goes on. -/
theorem skip_stops (hs : Stops s)
    (hm : mode = .zero ∨ mode = .wholeDigits ∨ mode = .partDigits ∨ mode = .exponentDigits) :
    skip mode opened s = resume opened s := by
  cases s with
  | nil =>
    have hend : skip mode opened [] = if opened.isEmpty then .ok [] else .error .cutShort := by
      rcases hm with rfl | rfl | rfl | rfl <;> rfl
    rw [hend]
    cases opened <;> rfl
  | cons c s =>
    obtain ⟨hd, hp, he, hE⟩ := hs c rfl
    have hfeed : mode.feed c s opened = feedAfter c opened := by
      rcases hm with rfl | rfl | rfl | rfl <;> simp [Mode.feed, feedPoint, hd, hp, he, hE]
    rw [skip, hfeed]
    cases opened <;> rfl

theorem skip_exponent (h : ExponentText text) (hm : mode = .zero ∨ mode = .wholeDigits ∨ mode = .partDigits)
    (hs : Stops s) : skip mode opened (text ++ s) = resume opened s := by
  have hletter {e : Char} (he : e = 'e' ∨ e = 'E') (r : List Char) :
      mode.feed e r opened = .next .exponent opened := by
    rcases hm with rfl | rfl | rfl <;> rcases he with rfl | rfl <;> rfl
  have hdigits {ds : List Char} (h : ∀ d ∈ ds, isDigit d = true) :
      skip .exponentDigits opened (ds ++ s) = resume opened s := by
    rw [skip_digits (.inr (.inr rfl)) h]
    exact skip_stops hs (.inr (.inr (.inr rfl)))
  cases h with
  | none => exact skip_stops hs (hm.imp_right (Or.imp_right .inl))
  | @unsigned e ds he h =>
    obtain ⟨c, ds, rfl⟩ := List.exists_cons_of_ne_nil h.nonempty
    obtain ⟨hc, hds⟩ := List.forall_mem_cons.1 h.digits
    have hsign : ¬ (c = '+' ∨ c = '-') := by
      rintro (rfl | rfl) <;> exact absurd hc (by decide)
    have hfirst (r : List Char) : Mode.exponent.feed c r opened = .next .exponentDigits opened := by
      simp only [Mode.feed, if_neg hsign, if_pos hc]
    rw [List.cons_append, skip_next _ (hletter he _), List.cons_append, skip_next _ (hfirst _)]
    exact hdigits hds
  | @signed e sign ds he hsign h =>
    obtain ⟨c, ds, rfl⟩ := List.exists_cons_of_ne_nil h.nonempty
    obtain ⟨hc, hds⟩ := List.forall_mem_cons.1 h.digits
    have hmark (r : List Char) : Mode.exponent.feed sign r opened = .next .exponentSign opened := if_pos hsign
    have hfirst (r : List Char) : Mode.exponentSign.feed c r opened = .next .exponentDigits opened := if_pos hc
    rw [List.cons_append, skip_next _ (hletter he _), List.cons_append, skip_next _ (hmark _), List.cons_append,
      skip_next _ (hfirst _)]
    exact hdigits hds

/-- **A number is passed over** where none goes on after it. -/
theorem NumberText.passes (h : NumberText text) : Passes text := by
  intro opened rest hr
  have hparts {w f e : List Char} (hw : WholeText w) (hf : FractionText f) (he : ExponentText e) {mode : Mode}
      (hm : mode = .value ∨ mode = .sign) : skip mode opened (w ++ (f ++ e) ++ rest) = resume opened rest := by
    obtain ⟨m₁, hm₁, e₁⟩ := skip_whole hw hm (f ++ e ++ rest)
    obtain ⟨m₂, hm₂, e₂⟩ := skip_fraction hf hm₁ (e ++ rest)
    rw [List.append_assoc, e₁, List.append_assoc, e₂]
    exact skip_exponent he hm₂ hr
  cases h with
  | plus hw hf he => exact hparts hw hf he (.inl rfl)
  | minus hw hf he =>
    rw [List.cons_append, skip_next .sign rfl]
    exact hparts hw hf he (.inr rfl)

/-! ### Lists and objects -/

theorem skip_blank (hm : ∀ c, isSpace c = true → ∀ r, mode.feed c r opened = .next mode opened) (h : Blank ws)
    (s : List Char) : skip mode opened (ws ++ s) = skip mode opened s :=
  skip_stay (fun c hc => hm c (h c hc)) s

theorem feedValue_space (h : isSpace c = true) (r : List Char) :
    Mode.value.feed c r opened = .next .value opened := if_pos h

theorem feedAfter_space {b : Bracket} (h : isSpace c = true) (r : List Char) :
    Mode.after.feed c r (b :: opened) = .next .after (b :: opened) := by
  simp only [isSpace, Bool.or_eq_true, beq_iff_eq] at h
  rcases h with ((rfl | rfl) | rfl) | rfl <;> cases b <;> rfl

theorem feedFirst_space (hm : mode = .firstItem ∨ mode = .firstKey ∨ mode = .key ∨ mode = .colon)
    (h : isSpace c = true) (r : List Char) : mode.feed c r opened = .next mode opened := by
  simp only [isSpace, Bool.or_eq_true, beq_iff_eq] at h
  rcases hm with rfl | rfl | rfl | rfl <;> rcases h with ((rfl | rfl) | rfl) | rfl <;> rfl

/-- The first item of a list is a value like any other. -/
theorem skip_firstItem (h : Begins text) (s : List Char) :
    skip .firstItem opened (text ++ s) = skip .value opened (text ++ s) := by
  obtain ⟨c, cs, rfl, hspace, hclose⟩ := h
  rw [List.cons_append, skip, skip]
  simp only [Mode.feed, if_neg hclose, hspace, Bool.false_eq_true, if_false]

/-- The items of a list are passed over if each of them is. -/
theorem Listed.passes {texts : List (List Char)} (h : Listed first texts text)
    (hv : ∀ t ∈ texts, Begins t ∧ Passes t) (rest : List Char) :
    skip (if first then .firstItem else .after) (.list :: opened) (text ++ rest) = resume opened rest := by
  induction h with
  | @close first ws hb =>
    rw [List.append_assoc, List.singleton_append]
    cases first with
    | true => exact (skip_blank (fun c hc => feedFirst_space (.inl rfl) hc) hb _).trans (skip_closed rfl)
    | false => exact (skip_blank (fun c hc => feedAfter_space hc) hb _).trans (skip_closed rfl)
  | @item first gap text more texts hg h ih =>
    obtain ⟨⟨hbegins, hpasses⟩, hrest⟩ := List.forall_mem_cons.1 hv
    have hvalue : skip .value (.list :: opened) (text ++ (more ++ rest)) = resume opened rest := by
      rw [hpasses _ _ (h.stops rest)]
      exact ih hrest
    rw [List.append_assoc, List.append_assoc]
    cases hg with
    | first hb =>
      simp only [if_true]
      rw [skip_blank (fun c hc => feedFirst_space (.inl rfl) hc) hb, skip_firstItem hbegins, hvalue]
    | next hb hb' =>
      simp only [Bool.false_eq_true, if_false]
      rw [List.append_assoc, skip_blank (fun c hc => feedAfter_space hc) hb, List.cons_append,
        skip_next .value rfl, skip_blank (fun c hc => feedValue_space hc) hb', hvalue]

/-- The members of an object are passed over if the value of each of them is. -/
theorem Membered.passes {ms : List (Unit × List Char)} (h : Membered (fun key _ => Loose key) first ms text)
    (hv : ∀ m ∈ ms, Passes m.2) (rest : List Char) :
    skip (if first then .firstKey else .after) (.object :: opened) (text ++ rest) = resume opened rest := by
  induction h with
  | @close first ws hb =>
    rw [List.append_assoc, List.singleton_append]
    cases first with
    | true => exact (skip_blank (fun c hc => feedFirst_space (.inr (.inl rfl)) hc) hb _).trans (skip_closed rfl)
    | false => exact (skip_blank (fun c hc => feedAfter_space hc) hb _).trans (skip_closed rfl)
  | @member first gap key ws ws' text more _ ms hg hk hws hws' h ih =>
    obtain ⟨hpasses, hrest⟩ := List.forall_mem_cons.1 hv
    -- from the quote of the key on
    have hkey : skip (.text .plain true) (.object :: opened)
        (key ++ '"' :: (ws ++ ':' :: (ws' ++ (text ++ (more ++ rest))))) = resume opened rest := by
      rw [skip_loose hk, if_pos rfl, skip_blank (fun c hc => feedFirst_space (.inr (.inr (.inr rfl))) hc) hws,
        skip_next .value rfl, skip_blank (fun c hc => feedValue_space hc) hws', hpasses _ _ (h.stops rest)]
      exact ih hrest
    simp only [List.append_assoc, List.cons_append]
    cases hg with
    | first hb =>
      simp only [if_true]
      rw [skip_blank (fun c hc => feedFirst_space (.inr (.inl rfl)) hc) hb,
        skip_next (.text .plain true) rfl, hkey]
    | next hb hb' =>
      simp only [Bool.false_eq_true, if_false]
      rw [List.append_assoc, skip_blank (fun c hc => feedAfter_space hc) hb, List.cons_append,
        skip_next .key rfl, skip_blank (fun c hc => feedFirst_space (.inr (.inr (.inl rfl))) hc) hb',
        skip_next (.text .plain true) rfl, hkey]

/-- **Every value is passed over**, whatever is in it, and the brackets that were open before are open still. -/
theorem Value.passes (h : Value text) : Passes text := by
  induction h with
  | number h => exact h.passes
  | null | yes | no =>
    intro opened rest _
    exact (skip_next _ rfl).trans (skip_word (List.cons_ne_nil _ _) rest)
  | string h =>
    intro opened rest _
    rw [List.cons_append, List.append_assoc, List.singleton_append, skip_next (.text .plain false) rfl,
      skip_loose h, if_neg Bool.false_ne_true]
  | list h hv ih =>
    intro opened rest _
    rw [List.cons_append, skip_next .firstItem rfl]
    exact h.passes (fun t ht => ⟨(hv t ht).begins, ih t ht⟩) rest
  | object h _ ih =>
    intro opened rest _
    rw [List.cons_append, skip_next .firstKey rfl]
    exact h.passes ih rest

theorem Passes.blank (h : Passes text) (hws : Blank ws) : Passes (ws ++ text) := by
  intro opened rest hr
  rw [List.append_assoc, skip_blank (fun c hc => feedValue_space hc) hws]
  exact h opened rest hr

/-- What is passed over inside brackets is so as a value of its own. -/
theorem Passes.skips (h : Passes text) : Skips text := fun rest hr => h [] rest hr

end Sluice.Json
