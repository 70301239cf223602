import Sluice.Json.Basic
import Sluice.Word

/-!
# JSON numbers

Only the integers are kept apart: a number with a fraction, an exponent or a minus sign before zero
is a `real`, whose value nothing here needs. It must still be a double: a number beyond the largest
one is refused.

* `readNumber`: the number at the front of a text.
* `exceedsDouble`: whether a scaled significand is beyond the largest double.
-/

namespace Sluice.Json

/-- A number as far as its reader has to know it. -/
inductive Number
  /-- A natural number below `2 ^ 64`. -/
  | natural (n : Nat)
  /-- The negative of a number from 1 to `2 ^ 63`. -/
  | negative (n : Nat)
  | real
  deriving DecidableEq

/-- The decimal digits. -/
def isDigit (c : Char) : Bool := '0' ≤ c && c ≤ '9'

/-- The value of a decimal digit. -/
def digitValue (c : Char) : Nat := c.toNat - 48

/-- The natural number that decimal digits write. -/
def decimalValue (ds : List Char) : Nat := ds.foldl (fun n c => n * 10 + digitValue c) 0

/-- The first number that does not fit in the exponent. -/
def exponentLimit : Nat := 0x8000_0000

/-- The number rounded to 53 binary digits, a half to the even neighbour. -/
def round53 (n : Nat) : Nat :=
  let shift := Nat.log2 n - 52
  let unit := 1 <<< shift
  let q := n / unit
  let r := n % unit
  (if 2 * r > unit ∨ (2 * r = unit ∧ q % 2 = 1) then q + 1 else q) * unit

/-- Whether `sig * 10 ^ exp`, from a rounded significand and a rounded power, is infinite. -/
def exceedsDouble (sig : Nat) (exp : Int) : Bool :=
  if sig = 0 ∨ exp < 0 then false
  else if exp > 308 then true
  else 1 <<< 1024 - 1 <<< 970 ≤ round53 sig * round53 (Nat.pow 10 exp.toNat)

/-- A significand of 64 bits and the power of ten that scales it. -/
structure Scaled where
  sig : Nat
  exp : Int
  full : Bool := false

/-- One more digit before the point: one that does not fit only scales, as do all after it. -/
def Scaled.pushWhole (a : Scaled) (c : Char) : Scaled :=
  let next := a.sig * 10 + digitValue c
  if a.full ∨ wordBound ≤ next then { a with exp := a.exp + 1, full := true }
  else { a with sig := next }

/-- One more digit after the point: one that does not fit is dropped, as are all after it. -/
def Scaled.pushPart (a : Scaled) (c : Char) : Scaled :=
  let next := a.sig * 10 + digitValue c
  if a.full ∨ wordBound ≤ next then { a with full := true }
  else { a with sig := next, exp := a.exp - 1 }

/-- A number that is no integer, if it is in range. -/
def Scaled.finish (a : Scaled) (rest : List Char) : Except Fault (Number × List Char) :=
  if exceedsDouble a.sig a.exp then .error .malformed else .ok (.real, rest)

/-- Reads the digits of an exponent with its sign known. -/
def readExponentDigits (a : Scaled) (plus : Bool) (s : List Char) : Except Fault (Number × List Char) :=
  match s with
  | [] => .error .cutShort
  | c :: _ =>
    if !isDigit c then .error .malformed
    else
      let e := decimalValue (s.takeWhile isDigit)
      let rest := s.dropWhile isDigit
      if exponentLimit ≤ e then
        if a.sig ≠ 0 ∧ plus then .error .malformed else .ok (.real, rest)
      else Scaled.finish { a with exp := if plus then a.exp + e else a.exp - e } rest

/-- Reads what follows the letter of an exponent. -/
def readExponent (a : Scaled) (s : List Char) : Except Fault (Number × List Char) :=
  match s with
  | '+' :: r => readExponentDigits a true r
  | '-' :: r => readExponentDigits a false r
  | r => readExponentDigits a true r

/-- Reads an exponent, if one begins here. -/
def readScale (a : Scaled) (s : List Char) : Except Fault (Number × List Char) :=
  match s with
  | 'e' :: r => readExponent a r
  | 'E' :: r => readExponent a r
  | r => a.finish r

/-- Reads what follows a decimal point. -/
def readFraction (a : Scaled) (s : List Char) : Except Fault (Number × List Char) :=
  let ds := s.takeWhile isDigit
  let rest := s.dropWhile isDigit
  if ds.isEmpty then .error (if rest.isEmpty then .cutShort else .malformed)
  else readScale (ds.foldl Scaled.pushPart { a with full := false }) rest

/-- The number of an integer's sign and digits. -/
def integer (minus : Bool) (ds : List Char) (rest : List Char) : Except Fault (Number × List Char) :=
  let n := decimalValue ds
  if wordBound ≤ n then (ds.foldl Scaled.pushWhole { sig := 0, exp := 0 }).finish rest
  else if !minus then .ok (.natural n, rest)
  else if n = 0 ∨ signedBound < n then .ok (.real, rest)
  else .ok (.negative n, rest)

/-- Reads a number whose sign has been taken. -/
def readUnsigned (minus : Bool) (s : List Char) : Except Fault (Number × List Char) :=
  match s with
  | [] => .error .cutShort
  | c :: cs =>
    if !isDigit c then .error .malformed
    else if c = '0' ∧ cs.head?.any isDigit then .error .malformed
    else
      let ds := s.takeWhile isDigit
      match s.dropWhile isDigit with
      | '.' :: r => readFraction (ds.foldl Scaled.pushWhole { sig := 0, exp := 0 }) r
      | 'e' :: r => readExponent (ds.foldl Scaled.pushWhole { sig := 0, exp := 0 }) r
      | 'E' :: r => readExponent (ds.foldl Scaled.pushWhole { sig := 0, exp := 0 }) r
      | r => integer minus ds r

/-- Reads a number. -/
def readNumber (s : List Char) : Except Fault (Number × List Char) :=
  match s with
  | '-' :: r => readUnsigned true r
  | r => readUnsigned false r

/-- A natural number in decimal. -/
def naturalText (n : Nat) : List Char := Nat.toDigits 10 n

/-- An integer in decimal. -/
def integerText : Int → List Char
  | .ofNat n => naturalText n
  | .negSucc n => '-' :: naturalText (n + 1)

end Sluice.Json
