import Sluice.Text.Hex

/-!
# Addresses to listen at

* `Address`: four octets or eight groups, with a port.
* `Address.parse?`: reads `1.2.3.4:80` or `[::1%2]:80`, and nothing else.
* `Address.listen`: the address of a host and a port, or why it cannot be listened at.
-/

namespace Sluice

/-- An address with a port. -/
inductive Address
  | v4 (octets : List Nat) (port : Nat)
  | v6 (groups : List Nat) (scope port : Nat)
  deriving DecidableEq

namespace Address

/-- A reader of addresses gives a value and the characters after it. -/
abbrev Read (α : Type) := List Char → Option (α × List Char)

/-- The number of a digit in a base up to sixteen. -/
def digit? (base : Nat) (c : Char) : Option Nat := (hexValue? c).filter (· < base)

/-- Reads a number below a bound of at most so many digits. -/
def number (base width bound : Nat) : Read Nat := fun s =>
  let digits := s.takeWhile fun c => (digit? base c).isSome
  let value := (digits.filterMap (digit? base)).foldl (fun n d => n * base + d) 0
  if digits.isEmpty || width < digits.length || bound ≤ value then none
  else some (value, s.drop digits.length)

/-- Reads a character. -/
def char (c : Char) : Read Unit
  | d :: cs => if d = c then some ((), cs) else none
  | [] => none

/-- Reads an octet: up to three digits without a leading zero. -/
def octet : Read Nat := fun s => do
  let (n, rest) ← number 10 3 256 s
  if s.head? = some '0' ∧ rest.length + 1 < s.length then none else some (n, rest)

/-- Reads four octets between dots. -/
def octets : Read (List Nat) := fun s => do
  let (a, s) ← octet s
  let (_, s) ← char '.' s
  let (b, s) ← octet s
  let (_, s) ← char '.' s
  let (c, s) ← octet s
  let (_, s) ← char '.' s
  let (d, s) ← octet s
  pure ([a, b, c, d], s)

/-- Reads up to `room` groups between colons. The last two of them may be written as four octets, and
then the reader stops and says so. -/
def groups : Nat → Bool → List Char → List Nat × Bool × List Char
  | 0, _, s => ([], false, s)
  | room + 1, first, s =>
    let start := if first then some ((), s) else char ':' s
    match start with
    | none => ([], false, s)
    | some (_, t) =>
      match if 1 ≤ room then octets t else none with
      | some ([a, b, c, d], rest) => ([a * 256 + b, c * 256 + d], true, rest)
      | _ =>
        match number 16 4 0x1_0000 t with
        | none => ([], false, s)
        | some (n, rest) =>
          let (more, dotted, rest) := groups room false rest
          (n :: more, dotted, rest)

/-- Reads eight groups, of which one run of zeros may be written as two colons. -/
def v6Groups : Read (List Nat) := fun s => do
  let (front, dotted, rest) := groups 8 true s
  if front.length = 8 then some (front, rest)
  else if dotted then none
  else
    let (_, rest) ← char ':' rest
    let (_, rest) ← char ':' rest
    let (back, _, rest) := groups (7 - front.length) true rest
    pure (front ++ List.replicate (8 - front.length - back.length) 0 ++ back, rest)

/-- Reads the port after its colon. -/
def port : Read Nat := fun s => do
  let (_, s) ← char ':' s
  number 10 s.length 0x1_0000 s

/-- Reads the scope after its percent sign, if there is one. -/
def scope : Read Nat
  | '%' :: s => number 10 s.length 0x1_0000_0000 s
  | s => some (0, s)

/-- Reads an address of four octets. -/
def readV4 : Read Address := fun s => do
  let (a, s) ← octets s
  let (p, s) ← port s
  pure (.v4 a p, s)

/-- Reads an address of eight groups. -/
def readV6 : Read Address := fun s => do
  let (_, s) ← char '[' s
  let (a, s) ← v6Groups s
  let (sc, s) ← scope s
  let (_, s) ← char ']' s
  let (p, s) ← port s
  pure (.v6 a sc p, s)

/-- The address that a whole text is. -/
def parse? (text : String) : Option Address :=
  match readV4 text.toList with
  | some (a, []) => some a
  | _ =>
    match readV6 text.toList with
    | some (a, []) => some a
    | _ => none

/-- Whether an address is this machine's own, or all of its own. -/
def isLocal : Address → Bool
  | v4 octets _ => octets.head? = some 127 || octets = [0, 0, 0, 0]
  | v6 groups _ _ => groups.take 7 = List.replicate 7 0 && groups.getLast?.any (· ≤ 1)

/-- Why nothing can be listened for at an address. -/
inductive Fault
  | malformed
  | unavailable
  deriving DecidableEq

/-- The text of a fault. -/
def Fault.message : Fault → String
  | malformed => "invalid socket address syntax"
  | unavailable => "Cannot assign requested address (os error 99)"

/-- The address of a host and a port, if it can be listened at. -/
def listen (host : String) (port : Nat) : Except Fault Address :=
  match parse? (host ++ ":" ++ toString port) with
  | none => .error .malformed
  | some a => if a.isLocal then .ok a else .error .unavailable

end Address

end Sluice
