/-!
# Numbers of 64 bits

* `wordBound`, `signedBound`: the first numbers that do not fit, without a sign and with one.
-/

namespace Sluice

/-- The first natural number that does not fit in 64 bits. -/
abbrev wordBound : Nat := 0x1_0000_0000_0000_0000

/-- The first natural number that does not fit in 64 bits of which one is the sign. -/
abbrev signedBound : Nat := 0x8000_0000_0000_0000

end Sluice
