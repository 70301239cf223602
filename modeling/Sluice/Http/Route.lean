import Sluice.Http.Message
import Sluice.Json.Record
import Sluice.Version
import Sluice.Wire.State
import Sluice.World

/-!
# Routes

* `Router`: what an application makes of requests, whatever paths and methods it has routes for.
* `Site`: the operator's routes of a service beside the router of an application behind a gate.
* `Site.route`: who answers a request.
* `health`, `shown`, `refusal`: the responses.
-/

namespace Sluice.Http

/-- Where a router leads a request: to code of the application, be it that of a route or of a fallback, or to an
answer of its own. -/
structure Landing where
  /-- The router's own answer. Without one the application's code is run. -/
  own : Option Response := none
  /-- What the router does to the answer, whoever gives it. -/
  edit : Edit := {}
  deriving DecidableEq

/-- The router of an application: where it leads each request. It takes the body off no answer but that to a
`HEAD`. -/
structure Router where
  land : Request → Landing
  headOnly : ∀ q, (land q).edit.headOnly = true → q.isHead = true

/-- An application behind a gate. -/
structure App where
  gate : GateId
  router : Router

/-- What is served at an address. -/
structure Site where
  service : Option ServiceId := none
  app : Option App := none

/-- What an operator can ask for. -/
inductive Command
  | health
  | state
  | suspend
  | resume
  | shutdown
  deriving DecidableEq

namespace Command

/-- The path of a command. -/
def path : Command → String
  | health => "/health-check"
  | state => "/suspend-state"
  | suspend => "/suspend"
  | resume => "/resume"
  | shutdown => "/shutdown"

/-- The command at a path. -/
def ofPath? (path : String) : Option Command :=
  [health, state, suspend, resume, shutdown].find? fun c => c.path = path

/-- Whether a command only looks. -/
def isRead : Command → Bool
  | health | state => true
  | _ => false

end Command

/-- The methods of what is only looked at, and of what acts. -/
def readMethods : List String := ["GET", "HEAD"]
def actMethods : List String := ["POST"]

/-- The methods of a command. -/
def Command.methods (c : Command) : List String := if c.isRead then readMethods else actMethods

/-- The methods of a path, as they are told to a request that has another one. -/
def allowed (methods : List String) : Option String := some (",".intercalate methods)

/-- Who answers a request. -/
inductive Route
  | command (service : ServiceId) (command : Command)
  /-- The application behind its gate, or its router behind the same gate. -/
  | gated (gate : GateId) (landing : Landing)
  /-- The operator's router by itself. -/
  | own (answer : Response)

/-- Who answers a request. What the operator's routes do not cover is the application's. -/
def Site.route (site : Site) (q : Request) : Route :=
  match site.service, Command.ofPath? q.path with
  | some s, some c =>
    if q.method ∈ c.methods then .command s c else .own { status := 405, allow := allowed c.methods }
  | _, _ =>
    match site.app with
    | none => .own { status := 404 }
    | some a => .gated a.gate (a.router.land q)

/-! ## The router of one route -/

/-- Paths of one route. -/
inductive Pattern
  | exactly (path : String)
  /-- One more segment after this beginning. -/
  | under (beginning : String)
  deriving DecidableEq

/-- Whether a pattern has a path. -/
def Pattern.covers : Pattern → String → Bool
  | exactly p, path => path = p
  | under b, path =>
    let rest := path.toList.drop b.length
    b.toList.isPrefixOf path.toList && !rest.isEmpty && !rest.contains '/'

/-- Where a request is led if there is one route, and this is for what is only looked at. -/
def Pattern.land (paths : Pattern) (q : Request) : Landing :=
  if paths.covers q.path then
    if q.method ∈ readMethods then { edit := { headOnly := q.isHead } }
    else { own := some { status := 405 }, edit := { allow := allowed readMethods } }
  else { own := some { status := 404 } }

/-- The router of one such route. -/
def Router.get (paths : Pattern) : Router where
  land := paths.land
  headOnly q := by
    unfold Pattern.land
    split
    · split
      · exact id
      · exact nofun
    · exact nofun

/-! ## Responses -/

open Json in
/-- The health of a coordinator: only a running one is ready. -/
def health (s : Snapshot) : Response :=
  let h := Health.ofState s.state
  .json (if h = .ready then 200 else 503) (objectOf [("status", h.encode),
    ("version", textOf version),
    ("outstanding", integerText ((s.gates.map GateStatus.outstanding).foldl (· + ·) 0))])

/-- A snapshot as a response. -/
def shown (status : Nat) (s : Snapshot) : Response := .json status s.encode

/-- What a shutdown answers. -/
def stopping : Response := .json 200 (Json.objectOf [])

/-- The seconds after which a client may try again. -/
def retrySeconds : Nat := 5

/-- What a gate answers to work that it turns away. -/
def refusal (gate : String) : Response :=
  { Response.json 503 (Json.objectOf [("error", Json.textOf (GateError.draining gate).message)]) with
    retryAfter := some (toString retrySeconds) }

end Sluice.Http
