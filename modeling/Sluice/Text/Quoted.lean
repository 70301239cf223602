import Sluice.Text.Combining
import Sluice.Text.Printable

/-!
# Quoted text

A text is shown between double quotes, on one line, with every character in it visible.

* `escapeChar`: what stands for one character.
* `quoted`: the text between its quotes.
-/

namespace Sluice

/-- The digits of a number in base sixteen, in lower case and without leading zeros. -/
def hexText (n : Nat) : List Char := Nat.toDigits 16 n

/-- A character by its number, for one that cannot be shown as itself. -/
def numbered (c : Char) : List Char :=
  ['\\', 'u', '\x7b'] ++ hexText c.toNat ++ ['\x7d']

/-- What stands for a character inside a quoted text. -/
def escapeChar (c : Char) : List Char :=
  if c = '\x00' then ['\\', '0']
  else if c = '\t' then ['\\', 't']
  else if c = '\r' then ['\\', 'r']
  else if c = '\n' then ['\\', 'n']
  else if c = '\\' then ['\\', '\\']
  else if c = '"' then ['\\', '"']
  else if ' ' ≤ c ∧ c ≤ '~' then [c]
  else if isCombining c || !isPrintable c then numbered c
  else [c]

/-- A text between double quotes. -/
def quoted (s : String) : String :=
  String.ofList ('"' :: (s.toList.flatMap escapeChar ++ ['"']))

end Sluice
