import Sluice.Span
import Sluice.Text.Blank
import Sluice.Text.Quoted

/-!
# Settings

* `PoolConfig`: the sizes of a pool and how long a caller waits.
* `ServerConfig.ofEnvironment`: the settings of a server from variables of its environment, or the
  first of them that is wrong.
* `readBounded`: a natural number below a bound, with the reason why a text is none.
-/

namespace Sluice

/-- The sizes of a pool. -/
structure PoolConfig where
  /-- The cap on live instances, 0 for none. -/
  maxInstances : Nat := 0
  /-- The cap on idle instances, 0 to keep none. -/
  poolSize : Nat := 0
  /-- How long a caller waits for capacity, 0 for ever. -/
  timeoutMillis : Nat := 0
  deriving DecidableEq

namespace PoolConfig

/-- The settings with a wait of so long, in whole milliseconds and at most the greatest number of
64 bits. -/
def withTimeout (c : PoolConfig) (d : Span) : PoolConfig :=
  { c with timeoutMillis := min d.toMillis (wordBound - 1) }

/-- How long a caller waits, unless for ever. -/
def timeout (c : PoolConfig) : Option Span :=
  if h : 0 < c.timeoutMillis ∧ c.timeoutMillis < wordBound then
    some (Span.ofMillis c.timeoutMillis h.2)
  else none

end PoolConfig

/-- The settings of a server. -/
structure ServerConfig where
  host : String := "0.0.0.0"
  port : Nat := 9990
  /-- Whether only an explicit request or an interrupt stops the server. -/
  awaitExplicitShutdown : Bool := false
  /-- How long a shutdown waits for the gates to drain. -/
  drainTimeout : Span := Span.ofSecs 30 (by decide)
  deriving DecidableEq

/-- The variables that are read. -/
inductive Variable
  | host
  | port
  | awaitExplicitShutdown
  | drainTimeoutSecs
  deriving DecidableEq

/-- The name of a variable in the environment. -/
def Variable.name : Variable → String
  | host => "QUIESCE_HOST"
  | port => "QUIESCE_PORT"
  | awaitExplicitShutdown => "QUIESCE_AWAIT_EXPLICIT_SHUTDOWN"
  | drainTimeoutSecs => "QUIESCE_DRAIN_TIMEOUT_SECS"

/-- Why a value is wrong. -/
inductive ConfigFault
  | empty
  | badDigit
  | tooLarge
  | notBoolean
  deriving DecidableEq

/-- The text of a fault. -/
def ConfigFault.message : ConfigFault → String
  | empty => "cannot parse integer from empty string"
  | badDigit => "invalid digit found in string"
  | tooLarge => "number too large to fit in target type"
  | notBoolean => "expected a boolean"

/-- A variable with a wrong value. -/
structure ConfigError where
  source : Variable
  value : String
  fault : ConfigFault
  deriving DecidableEq

/-- The text of an error. -/
def ConfigError.message (e : ConfigError) : String :=
  "invalid value for " ++ e.source.name ++ ": " ++ quoted e.value ++ " (" ++ e.fault.message ++ ")"

/-- Reads decimal digits on from `acc`: the first character at which the number is no digit or no
longer below the bound decides. -/
def readDigits (bound : Nat) : Nat → List Char → Except ConfigFault Nat
  | acc, [] => .ok acc
  | acc, c :: cs =>
    if '0' ≤ c ∧ c ≤ '9' then
      let n := acc * 10 + (c.toNat - 48)
      if n < bound then readDigits bound n cs else .error .tooLarge
    else .error .badDigit

/-- Reads a natural number below a bound: digits, with an optional plus sign before them. -/
def readBounded (bound : Nat) (s : List Char) : Except ConfigFault Nat :=
  match s with
  | [] => .error .empty
  | ['+'] => .error .badDigit
  | '+' :: cs => readDigits bound 0 cs
  | cs => readDigits bound 0 cs

/-- Reads a truth value in one of its spellings, in either case. -/
def readFlag (s : List Char) : Except ConfigFault Bool :=
  let word := String.ofList (s.map Char.toLower)
  if word ∈ ["1", "true", "yes", "on"] then .ok true
  else if word ∈ ["0", "false", "no", "off", ""] then .ok false
  else .error .notBoolean

namespace ServerConfig

/-- The environment, as far as it is text. -/
abbrev Environment := Variable → Option String

/-- Reads a variable between its blanks, if it is set, and else keeps `default`. -/
def setting {α : Type} (env : Environment) (v : Variable) (default : α)
    (read : List Char → Except ConfigFault α) : Except ConfigError α :=
  match env v with
  | none => .ok default
  | some value =>
    match read (trim value.toList) with
    | .ok a => .ok a
    | .error fault => .error ⟨v, value, fault⟩

/-- A drain timeout in seconds. -/
def readSeconds (s : List Char) : Except ConfigFault Span :=
  match readBounded wordBound s with
  | .ok n => if h : n < wordBound then .ok (Span.ofSecs n h) else .error .tooLarge
  | .error e => .error e

/-- The settings that an environment makes. The host is taken as it is. -/
def ofEnvironment (env : Environment) : Except ConfigError ServerConfig := do
  let d : ServerConfig := {}
  let port ← setting env .port d.port (readBounded 0x1_0000)
  let flag ← setting env .awaitExplicitShutdown d.awaitExplicitShutdown readFlag
  let timeout ← setting env .drainTimeoutSecs d.drainTimeout readSeconds
  pure { host := (env .host).getD d.host, port := port, awaitExplicitShutdown := flag,
         drainTimeout := timeout }

end ServerConfig

end Sluice
