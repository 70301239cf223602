import Sluice.Http.Target

/-!
# Requests and responses

* `Request.ofParts?`: a request of a method and a target, if both are well formed.
* `Response`: a status with the headers that matter here.
* `Edit`: what a router does to an answer on its way out.
-/

namespace Sluice.Http

/-- A request, as far as it decides who answers it. -/
structure Request where
  method : String
  path : String
  deriving DecidableEq

namespace Request

/-- Whether a character may stand in a method. -/
def isTokenChar (c : Char) : Bool := c.isAlphanum || c ∈ "!#$%&'*+-.^_`|~".toList

/-- The greatest length of a target, in bytes. -/
def maxTarget : Nat := 65534

/-- The request of a method and a target. -/
def ofParts? (method target : String) : Option Request :=
  if method.isEmpty || !method.toList.all isTokenChar || maxTarget < target.utf8ByteSize then none
  else (targetPath? target.toList).map fun path => ⟨method, String.ofList path⟩

/-- Whether the response goes without its body. -/
def isHead (q : Request) : Bool := q.method = "HEAD"

end Request

/-- A response. -/
structure Response where
  status : Nat := 200
  body : String := ""
  allow : Option String := none
  contentType : Option String := none
  retryAfter : Option String := none
  deriving DecidableEq

namespace Response

/-- A response in JSON. -/
def json (status : Nat) (body : List Char) : Response :=
  { status, body := String.ofList body, contentType := some "application/json" }

/-- A response in plain text. -/
def text (status : Nat) (body : String) : Response :=
  { status, body, contentType := some "text/plain; charset=utf-8" }

/-- A response without its body, where that is wanted. -/
def behead (r : Response) (head : Bool) : Response := if head then { r with body := "" } else r

end Response

/-- What a router does to an answer on its way out. -/
structure Edit where
  /-- Whether it goes without its body. -/
  headOnly : Bool := false
  /-- The methods that are told with it. -/
  allow : Option String := none
  deriving DecidableEq

/-- An answer as it leaves the router. -/
def Edit.apply (e : Edit) (r : Response) : Response := { r.behead e.headOnly with allow := r.allow.or e.allow }

end Sluice.Http
