import Sluice.Text.Hex

/-!
# Universally unique identifiers

* `Uuid`: a number of 128 bits.
* `Uuid.text`: 32 hexadecimal digits in lower case, grouped 8-4-4-4-12 by hyphens.
* `Uuid.ofChars?`: reads a plain, hyphenated, braced or `urn:uuid:` spelling, in either case.
* `Uuid.random`: lays 122 free bits out as version 4. `Uuid.nth`: a supply of such identifiers.
-/

namespace Sluice

/-- An identifier of 128 bits. -/
structure Uuid where
  value : Nat
  value_lt : value < 0x1_0000_0000_0000_0000_0000_0000_0000_0000
  deriving DecidableEq

namespace Uuid

/-- The last `width` hexadecimal digits of a number. -/
def digits : Nat → Nat → List Char
  | 0, _ => []
  | width + 1, n => digits width (n / 16) ++ [hexDigit (n % 16)]

/-- The number that hexadecimal digits write, going on from `acc`. -/
def number? : Nat → List Char → Option Nat
  | acc, [] => some acc
  | acc, c :: cs => do number? (acc * 16 + (← hexValue? c)) cs

/-- The 32 digits without hyphens. -/
def plain (u : Uuid) : List Char := digits 32 u.value

/-- The digits in groups of 8, 4, 4, 4 and 12. -/
def chars (u : Uuid) : List Char :=
  let d := u.plain
  d.take 8 ++ '-' :: ((d.drop 8).take 4 ++ '-' :: ((d.drop 12).take 4 ++
    '-' :: ((d.drop 16).take 4 ++ '-' :: d.drop 20)))

/-- The usual spelling. -/
def text (u : Uuid) : String := String.ofList u.chars

/-- Reads 32 digits. -/
def ofPlain? (s : List Char) : Option Uuid := do
  if s.length ≠ 32 then none
  let n ← number? 0 s
  if h : n < 0x1_0000_0000_0000_0000_0000_0000_0000_0000 then some ⟨n, h⟩ else none

/-- Reads 36 characters with the four hyphens in their places. -/
def ofHyphenated? (s : List Char) : Option Uuid :=
  if s.length = 36 ∧ s[8]? = some '-' ∧ s[13]? = some '-' ∧ s[18]? = some '-' ∧
      s[23]? = some '-' then
    ofPlain? (s.take 8 ++ ((s.drop 9).take 4 ++ ((s.drop 14).take 4 ++
      ((s.drop 19).take 4 ++ s.drop 24))))
  else none

/-- Reads any of the four spellings. -/
def ofChars? (s : List Char) : Option Uuid :=
  if s.length = 32 then ofPlain? s
  else if s.length = 36 then ofHyphenated? s
  else if s.length = 38 ∧ s.head? = some '\x7b' ∧ s.getLast? = some '\x7d' then
    ofHyphenated? ((s.drop 1).take 36)
  else if s.length = 45 ∧ (s.take 9).map Char.toLower = "urn:uuid:".toList then ofHyphenated? (s.drop 9)
  else none

/-- The version 4 identifier of 122 free bits: the four bits of the version stand below the first 48
of them, the two of the variant below the next twelve. -/
def random (free : Nat) : Uuid where
  value :=
    free / 0x400_0000_0000_0000_0000 % 0x1_0000_0000_0000 * 0x1_0000_0000_0000_0000_0000 +
    0x4000_0000_0000_0000_0000 +
    free / 0x4000_0000_0000_0000 % 0x1000 * 0x1_0000_0000_0000_0000 +
    0x8000_0000_0000_0000 +
    free % 0x4000_0000_0000_0000
  value_lt := by omega

/-- The identifiers of a supply, all different: an odd factor spreads consecutive numbers over the
free bits. -/
def nth (n : Nat) : Uuid := random (n * 0x9e3779b97f4a7c15f39cc0605cedc835)

/-- Whether an identifier has the version and the variant of a random one. -/
def IsRandom (u : Uuid) : Prop :=
  u.value / 0x1000_0000_0000_0000_0000 % 16 = 4 ∧ u.value / 0x4000_0000_0000_0000 % 4 = 2

instance (u : Uuid) : Decidable u.IsRandom := inferInstanceAs (Decidable (_ ∧ _))

end Uuid

end Sluice
