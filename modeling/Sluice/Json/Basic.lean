/-!
# Reading JSON

A reader takes characters from the front of a text and gives back what it has read together with
the characters that are left, or the first fault that it meets from the left.

* `Fault`: the three kinds of fault.
* `Read`: the type of a reader.
* `skipSpace`, `word`: the pieces that every reader uses.
-/

namespace Sluice.Json

/-- Why a text is refused. -/
inductive Fault
  /-- It breaks the grammar. -/
  | malformed
  /-- It ends too early. -/
  | cutShort
  /-- It is well formed so far, and no value of the wanted type. -/
  | misfit
  deriving DecidableEq

/-- A reader of values: it gives a value and the characters after it, or a fault. -/
abbrev Read (α : Type) := List Char → Except Fault (α × List Char)

/-- The four characters that may stand between tokens. -/
def isSpace (c : Char) : Bool := c == ' ' || c == '\n' || c == '\t' || c == '\r'

/-- The text from its first character that is no space. -/
def skipSpace (s : List Char) : List Char := s.dropWhile isSpace

/-- The text after the letters of a word. -/
def word : List Char → List Char → Except Fault (List Char)
  | [], s => .ok s
  | _ :: _, [] => .error .cutShort
  | w :: ws, c :: cs => if c = w then word ws cs else .error .malformed

/-- The text after the colon of an object's member. -/
def colon (s : List Char) : Except Fault (List Char) :=
  match skipSpace s with
  | [] => .error .cutShort
  | c :: cs => if c = ':' then .ok cs else .error .malformed

/-- The whole text must be one value, with spaces around it. -/
def whole {α : Type} (read : Read α) (s : List Char) : Except Fault α := do
  let (a, rest) ← read s
  if (skipSpace rest).isEmpty then pure a else throw .malformed

end Sluice.Json
