import Sluice.Text.Hex

/-!
# Percent signs in paths

* `percentDecode?`: a percent sign before two hexadecimal digits stands for a byte. All bytes together
  must be text.
-/

namespace Sluice.Http

/-- The bytes that characters stand for. -/
def percentBytes : List Char → List UInt8
  | '%' :: a :: b :: cs =>
    match hexValue? a, hexValue? b with
    | some x, some y => UInt8.ofNat (x * 16 + y) :: percentBytes cs
    | _, _ => '%'.val.toUInt8 :: percentBytes (a :: b :: cs)
  | c :: cs => String.utf8EncodeChar c ++ percentBytes cs
  | [] => []

/-- The text that characters stand for. -/
def percentDecode? (s : List Char) : Option String :=
  String.fromUTF8? ⟨(percentBytes s).toArray⟩

end Sluice.Http
