import Sluice.Word

/-!
# Spans of time

* `Span`: a length of time in seconds and nanoseconds, with 64 bits of seconds.
* `Span.ofParts?`: seconds and any number of nanoseconds, unless the sum does not fit.
* `Span.text`: the length in the largest unit that leaves a whole part.
-/

namespace Sluice

/-- A length of time. -/
structure Span where
  secs : Nat
  nanos : Nat := 0
  secs_lt : secs < wordBound := by decide
  nanos_lt : nanos < 1_000_000_000 := by decide
  deriving DecidableEq

namespace Span

/-- So many seconds. -/
def ofSecs (n : Nat) (h : n < wordBound) : Span := { secs := n, secs_lt := h }

/-- The length of no time. -/
def zero : Span := ofSecs 0 (by decide)

/-- The length in nanoseconds. -/
def toNanos (d : Span) : Nat := d.secs * 1_000_000_000 + d.nanos

/-- The whole milliseconds in the length. -/
def toMillis (d : Span) : Nat := d.secs * 1000 + d.nanos / 1_000_000

/-- So many seconds and nanoseconds together, if the seconds then fit in 64 bits. -/
def ofParts? (secs nanos : Nat) : Option Span :=
  if h : secs + nanos / 1_000_000_000 < wordBound then
    some { secs := secs + nanos / 1_000_000_000, nanos := nanos % 1_000_000_000, secs_lt := h,
           nanos_lt := Nat.mod_lt _ (by decide) }
  else none

/-- So many milliseconds. -/
def ofMillis (n : Nat) (h : n < wordBound) : Span where
  secs := n / 1000
  nanos := n % 1000 * 1_000_000
  secs_lt := Nat.lt_of_le_of_lt (Nat.div_le_self _ _) h
  nanos_lt := by have := Nat.mod_lt n (show 0 < 1000 by decide); omega

/-- The digits of a fraction of `10 ^ width` parts, with leading zeros and without trailing ones. -/
def fraction (part width : Nat) : List Char :=
  let digits := Nat.toDigits 10 part
  let padded := List.replicate (width - digits.length) '0' ++ digits
  (padded.reverse.dropWhile (· == '0')).reverse

/-- A decimal number with a whole part and a fraction of `10 ^ width` parts. -/
def decimal (whole part width : Nat) : String :=
  if part = 0 then toString whole
  else toString whole ++ "." ++ String.ofList (fraction part width)

/-- The length in seconds, milliseconds, microseconds or nanoseconds: the first of these in which
it is one or more. -/
def text (d : Span) : String :=
  if d.secs > 0 then decimal d.secs d.nanos 9 ++ "s"
  else if d.nanos ≥ 1_000_000 then decimal (d.nanos / 1_000_000) (d.nanos % 1_000_000) 6 ++ "ms"
  else if d.nanos ≥ 1000 then decimal (d.nanos / 1000) (d.nanos % 1000) 3 ++ "µs"
  else toString d.nanos ++ "ns"

end Span

end Sluice
