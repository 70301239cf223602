import Sluice.Json.Skip

/-!
# Values of a wanted type

Each reader wants a value of one type. A value of another kind is a misfit, once its own start has
been read without a fault.

* `readNat`, `readInt`, `readString`, `readOption`, `readList`, `readCase`: the plain types.
* `Schema`: a type with named fields. `readRecord` takes it as an object, in any order and with
  unknown members passed over, or as a list of the fields in order.
-/

namespace Sluice.Json

/-- The fault of a value that is not of the wanted kind. -/
def misfit (s : List Char) : Fault :=
  let after {α : Type} : Except Fault α → Fault
    | .error f => f
    | .ok _ => .misfit
  match s with
  | [] => .cutShort
  | 'n' :: r => after (word ['u', 'l', 'l'] r)
  | 't' :: r => after (word ['r', 'u', 'e'] r)
  | 'f' :: r => after (word ['a', 'l', 's', 'e'] r)
  | '"' :: r => after (readText r)
  | '[' :: _ => .misfit
  | '\x7b' :: _ => .misfit
  | c :: _ => if c = '-' ∨ isDigit c then after (readNumber s) else .malformed

/-- Reads a number, of which `pick` takes those of the wanted type. -/
def readNumeric {α : Type} (pick : Number → Option α) (s : List Char) : Except Fault (α × List Char) :=
  match skipSpace s with
  | [] => .error .cutShort
  | c :: cs =>
    if c = '-' ∨ isDigit c then do
      let (n, rest) ← readNumber (c :: cs)
      match pick n with
      | some a => pure (a, rest)
      | none => throw .misfit
    else .error (misfit (c :: cs))

/-- Reads a natural number of 64 bits. -/
def readNat (s : List Char) : Except Fault (Nat × List Char) :=
  readNumeric (fun | .natural n => some n | _ => none) s

/-- Reads a signed integer of 64 bits. -/
def readInt (s : List Char) : Except Fault (Int × List Char) :=
  readNumeric
    (fun
      | .natural n => if n < signedBound then some (n : Int) else none
      | .negative n => some (-(n : Int))
      | .real => none) s

/-- Reads a string. -/
def readString (s : List Char) : Except Fault (String × List Char) :=
  match skipSpace s with
  | [] => .error .cutShort
  | '"' :: r => readText r
  | r => .error (misfit r)

/-- Reads a string of which `pick` takes those that spell a value. -/
def readSpelling {α : Type} (pick : String → Option α) (s : List Char) : Except Fault (α × List Char) := do
  let (t, rest) ← readString s
  match pick t with
  | some a => pure (a, rest)
  | none => throw .misfit

/-- Reads `null` as nothing. -/
def readOption {α : Type} (read : Read α) (s : List Char) : Except Fault (Option α × List Char) :=
  match skipSpace s with
  | 'n' :: r => do pure (none, ← word ['u', 'l', 'l'] r)
  | r => do
    let (a, rest) ← read r
    pure (some a, rest)

/-- Reads the `null` after the name of a case. -/
def readUnit (s : List Char) : Except Fault (List Char) :=
  match skipSpace s with
  | [] => .error .cutShort
  | 'n' :: r => word ['u', 'l', 'l'] r
  | r => .error (misfit r)

/-- Reads one of several names, alone or as the only key of an object with `null`. -/
def readCase {α : Type} (pick : String → Option α) (s : List Char) : Except Fault (α × List Char) :=
  match skipSpace s with
  | [] => .error .cutShort
  | '"' :: r => readSpelling pick ('"' :: r)
  | '\x7b' :: r => do
    let (a, rest) ← readSpelling pick r
    let rest ← readUnit (← colon rest)
    match skipSpace rest with
    | [] => throw .cutShort
    | c :: cs => if c = '\x7d' then pure (a, cs) else throw .malformed
  | _ => .error .malformed

/-- What stands before the next item of a list, or the next member of an object. -/
inductive Next
  /-- The bracket closes, and this follows it. -/
  | closed (rest : List Char)
  /-- An item begins. -/
  | item (rest : List Char)

/-- Looks for the next item of a list. -/
def nextItem (first : Bool) (s : List Char) : Except Fault Next :=
  match skipSpace s with
  | [] => .error .cutShort
  | c :: cs =>
    if c = ']' then .ok (.closed cs)
    else if first then .ok (.item (c :: cs))
    else if c = ',' then
      match skipSpace cs with
      | [] => .error .cutShort
      | d :: ds => if d = ']' then .error .malformed else .ok (.item (d :: ds))
    else .error .malformed

/-- Looks for the next key of an object, and takes its opening quote. -/
def nextKey (first : Bool) (s : List Char) : Except Fault Next :=
  let key (s : List Char) : Except Fault Next :=
    match s with
    | [] => .error .cutShort
    | c :: cs => if c = '"' then .ok (.item cs) else .error .malformed
  match skipSpace s with
  | [] => .error .cutShort
  | c :: cs =>
    if c = '\x7d' then .ok (.closed cs)
    else if first then key (c :: cs)
    else if c = ',' then key (skipSpace cs)
    else .error .malformed

/-- Reads the items of a list whose bracket has been taken. Each item takes a character, so as
many turns as there are characters are enough. -/
def readItems {α : Type} (read : Read α) :
    Nat → Bool → Read (List α)
  | 0, _, _ => .error .cutShort
  | turns + 1, first, s => do
    match ← nextItem first s with
    | .closed rest => pure ([], rest)
    | .item r =>
      let (a, rest) ← read r
      let (as, rest) ← readItems read turns false rest
      pure (a :: as, rest)

/-- Reads a list. -/
def readList {α : Type} (read : Read α) (s : List Char) : Except Fault (List α × List Char) :=
  match skipSpace s with
  | [] => .error .cutShort
  | '[' :: r => readItems read (r.length + 1) true r
  | r => .error (misfit r)

/-- A field of a record that is read into a draft `σ`. -/
structure Field (σ : Type) where
  name : String
  /-- Whether the draft has it already. -/
  has : σ → Bool
  read : σ → Read σ

/-- A record with named fields. -/
structure Schema (σ α : Type) where
  blank : σ
  fields : List (Field σ)
  /-- The record of an object with these members. -/
  ofObject : σ → Option α
  /-- The record of a list with these items. -/
  ofList : σ → Option α

namespace Schema

variable {σ α : Type}

/-- Reads the members of an object whose bracket has been taken. -/
def readMembers (fields : List (Field σ)) : Nat → Bool → σ → Read σ
  | 0, _, _, _ => .error .cutShort
  | turns + 1, first, draft, s => do
    match ← nextKey first s with
    | .closed rest => pure (draft, rest)
    | .item r =>
      let (name, rest) ← readText r
      match fields.find? (fun f => f.name = name) with
      | some f =>
        if f.has draft then throw .misfit
        let (draft, rest) ← f.read draft (← colon rest)
        readMembers fields turns false draft rest
      | none =>
        let rest ← skipValue (← colon rest)
        readMembers fields turns false draft rest

/-- Reads the items of a list whose bracket has been taken, one for each field. -/
def readFields : List (Field σ) → Bool → σ → Read σ
  | [], _, draft, s =>
    match skipSpace s with
    | [] => .error .cutShort
    | c :: cs => if c = ']' then .ok (draft, cs) else .error .malformed
  | f :: fs, first, draft, s => do
    match ← nextItem first s with
    | .closed rest => pure (draft, rest)
    | .item r =>
      let (draft, rest) ← f.read draft r
      readFields fs false draft rest

/-- A finished draft is a record, or lacks a field. -/
def finish (make : σ → Option α) (r : σ × List Char) : Except Fault (α × List Char) :=
  match make r.1 with
  | some a => .ok (a, r.2)
  | none => .error .misfit

/-- Reads a record in either form. -/
def readRecord (S : Schema σ α) (s : List Char) : Except Fault (α × List Char) :=
  match skipSpace s with
  | [] => .error .cutShort
  | '\x7b' :: r => do
    finish S.ofObject (← readMembers S.fields (r.length + 1) true S.blank r)
  | '[' :: r => do finish S.ofList (← readFields S.fields true S.blank r)
  | r => .error (misfit r)

end Schema

/-- Texts with a comma between each two. -/
def commaJoin : List (List Char) → List Char
  | [] => []
  | [t] => t
  | t :: u :: ts => t ++ ',' :: commaJoin (u :: ts)

/-- The text of a list. -/
def listOf (items : List (List Char)) : List Char := '[' :: (commaJoin items ++ [']'])

/-- The text of an object. -/
def objectOf (members : List (String × List Char)) : List Char :=
  '\x7b' :: (commaJoin (members.map fun m => textOf m.1 ++ ':' :: m.2) ++ ['\x7d'])

end Sluice.Json
