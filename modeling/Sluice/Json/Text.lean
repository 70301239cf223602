import Sluice.Json.Basic
import Sluice.Text.Hex

/-!
# JSON strings

* `textOf`: a string between double quotes, with the shortest escape for what must be escaped.
* `scan`: reads what follows an opening quote, one character at a time, and tells where in an
  escape it stands.
* `readText`: a whole string.

A string that is read for its value needs its surrogates in pairs; one that is passed over does not.
-/

namespace Sluice.Json

/-- What stands for a character inside a string. -/
def escape (c : Char) : List Char :=
  if c = '"' then ['\\', '"']
  else if c = '\\' then ['\\', '\\']
  else if c = '\x08' then ['\\', 'b']
  else if c = '\x0c' then ['\\', 'f']
  else if c = '\n' then ['\\', 'n']
  else if c = '\r' then ['\\', 'r']
  else if c = '\t' then ['\\', 't']
  else if c.toNat < 32 then
    ['\\', 'u', '0', '0', hexDigit (c.toNat / 16), hexDigit (c.toNat % 16)]
  else [c]

/-- A string between its quotes. -/
def textOf (s : String) : List Char :=
  '"' :: (s.toList.flatMap escape ++ ['"'])

/-- Where a reader stands inside a string. -/
inductive Spot
  | plain
  /-- After a backslash. -/
  | backslash
  /-- In the digits of a numbered character: so many to come, the number so far, and the leading
  surrogate that it must complete. -/
  | digits (left value : Nat) (lead : Option Nat)
  /-- After a leading surrogate, before the backslash of its partner. -/
  | partner (lead : Nat)
  /-- After that backslash. -/
  | partnerMark (lead : Nat)

/-- What one character does to a reader inside a string. -/
inductive Turn
  | go (spot : Spot) (out : List Char)
  | close
  | fail (fault : Fault)

/-- Whether at least four bytes are left. -/
def fourBytes (rest : List Char) : Bool := 4 ≤ (rest.take 4).foldl (fun n c => n + c.utf8Size) 0

/-- The digits of a numbered character begin here. -/
def beginDigits (lead : Option Nat) (rest : List Char) : Turn :=
  if fourBytes rest then .go (.digits 4 0 lead) [] else .fail .cutShort

/-- The character of a pair of surrogates. -/
def ofPair (lead trail : Nat) : Char :=
  Char.ofNat (0x10000 + (lead - 0xD800) * 0x400 + (trail - 0xDC00))

/-- All four digits of a numbered character have been read. -/
def endDigits (strict : Bool) (n : Nat) : Option Nat → Turn
  | some lead => if 0xDC00 ≤ n ∧ n ≤ 0xDFFF then .go .plain [ofPair lead n] else .fail .malformed
  | none =>
    if strict ∧ 0xDC00 ≤ n ∧ n ≤ 0xDFFF then .fail .malformed
    else if strict ∧ 0xD800 ≤ n ∧ n ≤ 0xDBFF then .go (.partner n) []
    else .go .plain [Char.ofNat n]

/-- The character that a letter after a backslash stands for. -/
def unescape? (c : Char) : Option Char :=
  if c = '"' ∨ c = '\\' ∨ c = '/' then some c
  else if c = 'b' then some '\x08'
  else if c = 'f' then some '\x0c'
  else if c = 'n' then some '\n'
  else if c = 'r' then some '\r'
  else if c = 't' then some '\t'
  else none

/-- The next turn, at a character with these after it. -/
def Spot.turn (strict : Bool) (c : Char) (rest : List Char) : Spot → Turn
  | .plain =>
    if c = '"' then .close
    else if c = '\\' then .go .backslash []
    else if c.toNat < 32 then .fail .malformed
    else .go .plain [c]
  | .backslash =>
    if c = 'u' then beginDigits none rest
    else match unescape? c with
      | some d => .go .plain [d]
      | none => .fail .malformed
  | .digits left value lead =>
    match hexValue? c with
    | none => .fail .malformed
    | some d =>
      if left ≤ 1 then endDigits strict (value * 16 + d) lead
      else .go (.digits (left - 1) (value * 16 + d) lead) []
  | .partner lead => if c = '\\' then .go (.partnerMark lead) [] else .fail .malformed
  | .partnerMark lead => if c = 'u' then beginDigits (some lead) rest else .fail .malformed

/-- Reads to the closing quote. -/
def scan (strict : Bool) : Spot → Read (List Char)
  | _, [] => .error .cutShort
  | spot, c :: cs =>
    match spot.turn strict c cs with
    | .close => .ok ([], cs)
    | .fail f => .error f
    | .go next out => do
      let (s, rest) ← scan strict next cs
      pure (out ++ s, rest)

/-- Reads a string whose opening quote has been taken. -/
def readText (s : List Char) : Except Fault (String × List Char) := do
  let (cs, rest) ← scan true .plain s
  pure (String.ofList cs, rest)

end Sluice.Json
