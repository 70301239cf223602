import Sluice.Json.Text
import Sluice.Json.Number

/-!
# Passing over a value

A value that nobody asks for is still checked for its grammar. The check walks the text once and
remembers the brackets that are open; it never recurses, so values may nest to any depth.

* `Mode`: what may come next.
* `Mode.feed`: what one character does.
* `skipValue`: the text after a value.
-/

namespace Sluice.Json

/-- A bracket that is open. -/
inductive Bracket
  | list
  | object
  deriving DecidableEq

/-- What the next character may be. -/
inductive Mode
  /-- A value begins. -/
  | value
  /-- The first value of a list, or its end. -/
  | firstItem
  /-- The first key of an object, or its end. -/
  | firstKey
  /-- A key begins. -/
  | key
  /-- A colon after a key. -/
  | colon
  /-- A comma or the end of the innermost bracket. -/
  | after
  /-- The letters of a word. -/
  | word (rest : List Char)
  /-- Inside a string, which is a key or a value. -/
  | text (spot : Spot) (isKey : Bool)
  /-- The first digit of a number. -/
  | sign
  /-- After a zero that leads. -/
  | zero
  /-- In the digits before the point. -/
  | wholeDigits
  /-- After the point. -/
  | point
  /-- In the digits after the point. -/
  | partDigits
  /-- After the letter of an exponent. -/
  | exponent
  /-- The first digit of an exponent. -/
  | exponentSign
  /-- In the digits of an exponent. -/
  | exponentDigits

/-- What one character does. -/
inductive Move
  /-- It is taken. -/
  | next (mode : Mode) (opened : List Bracket)
  /-- It is the last one of the outermost value. -/
  | last
  /-- The outermost value has ended before it. -/
  | ended
  | fail (fault : Fault)

/-- A value has ended with this character. -/
def closeValue : List Bracket → Move
  | [] => .last
  | b :: bs => .next .after (b :: bs)

/-- A comma or a closing bracket. -/
def feedAfter (c : Char) : List Bracket → Move
  | [] => .ended
  | .list :: bs =>
    if c = ',' then .next .value (.list :: bs)
    else if c = ']' then closeValue bs
    else if isSpace c then .next .after (.list :: bs)
    else .fail .malformed
  | .object :: bs =>
    if c = ',' then .next .key (.object :: bs)
    else if c = '\x7d' then closeValue bs
    else if isSpace c then .next .after (.object :: bs)
    else .fail .malformed

/-- The first character of a value. -/
def feedValue (c : Char) (opened : List Bracket) : Move :=
  if isSpace c then .next .value opened
  else if c = 'n' then .next (.word ['u', 'l', 'l']) opened
  else if c = 't' then .next (.word ['r', 'u', 'e']) opened
  else if c = 'f' then .next (.word ['a', 'l', 's', 'e']) opened
  else if c = '-' then .next .sign opened
  else if c = '0' then .next .zero opened
  else if isDigit c then .next .wholeDigits opened
  else if c = '"' then .next (.text .plain false) opened
  else if c = '[' then .next .firstItem (.list :: opened)
  else if c = '\x7b' then .next .firstKey (.object :: opened)
  else .fail .malformed

/-- The first character of a key. -/
def feedKey (mode : Mode) (c : Char) (opened : List Bracket) : Move :=
  if isSpace c then .next mode opened
  else if c = '"' then .next (.text .plain true) opened
  else .fail .malformed

/-- After the digits before the point. -/
def feedPoint (c : Char) (opened : List Bracket) : Move :=
  if c = '.' then .next .point opened
  else if c = 'e' ∨ c = 'E' then .next .exponent opened
  else feedAfter c opened

/-- What a character does, with these after it. -/
def Mode.feed (c : Char) (rest : List Char) (opened : List Bracket) : Mode → Move
  | .value => feedValue c opened
  | .firstItem =>
    if c = ']' then closeValue opened.tail
    else if isSpace c then .next .firstItem opened
    else feedValue c opened
  | .firstKey =>
    if c = '\x7d' then closeValue opened.tail else feedKey .firstKey c opened
  | .key => feedKey .key c opened
  | .colon =>
    if c = ':' then .next .value opened
    else if isSpace c then .next .colon opened
    else .fail .malformed
  | .after => feedAfter c opened
  | .word [] => feedAfter c opened
  | .word [w] => if c = w then closeValue opened else .fail .malformed
  | .word (w :: ws) => if c = w then .next (.word ws) opened else .fail .malformed
  | .text spot isKey =>
    match spot.turn false c rest with
    | .go next _ => .next (.text next isKey) opened
    | .close => if isKey then .next .colon opened else closeValue opened
    | .fail f => .fail f
  | .sign =>
    if c = '0' then .next .zero opened
    else if isDigit c then .next .wholeDigits opened
    else .fail .malformed
  | .zero => if isDigit c then .fail .malformed else feedPoint c opened
  | .wholeDigits => if isDigit c then .next .wholeDigits opened else feedPoint c opened
  | .point => if isDigit c then .next .partDigits opened else .fail .malformed
  | .partDigits =>
    if isDigit c then .next .partDigits opened
    else if c = 'e' ∨ c = 'E' then .next .exponent opened
    else feedAfter c opened
  | .exponent =>
    if c = '+' ∨ c = '-' then .next .exponentSign opened
    else if isDigit c then .next .exponentDigits opened
    else .fail .malformed
  | .exponentSign => if isDigit c then .next .exponentDigits opened else .fail .malformed
  | .exponentDigits => if isDigit c then .next .exponentDigits opened else feedAfter c opened

/-- What the end of the text does: a number may end there, and one that lacks a digit is
malformed rather than cut short. -/
def Mode.atEnd (opened : List Bracket) : Mode → Except Fault (List Char)
  | .zero | .wholeDigits | .partDigits | .exponentDigits =>
    if opened.isEmpty then .ok [] else .error .cutShort
  | .sign | .point | .exponent | .exponentSign => .error .malformed
  | _ => .error .cutShort

/-- Walks to the end of the outermost value. -/
def skip : Mode → List Bracket → List Char → Except Fault (List Char)
  | mode, opened, [] => mode.atEnd opened
  | mode, opened, c :: cs =>
    match mode.feed c cs opened with
    | .next mode' opened' => skip mode' opened' cs
    | .last => .ok cs
    | .ended => .ok (c :: cs)
    | .fail f => .error f

/-- The text after a value of any kind. -/
def skipValue (s : List Char) : Except Fault (List Char) := skip .value [] s

end Sluice.Json
