/-!
# Log records

* `Record`: a message of a level with named values.
-/

namespace Sluice

/-- How grave a record is. -/
inductive Level
  | warn
  | error
  deriving DecidableEq

/-- The written name of a level. -/
def Level.name : Level → String
  | warn => "WARN"
  | error => "ERROR"

/-- A value in a record. -/
inductive Field
  | text (s : String)
  | count (n : Int)
  deriving DecidableEq

/-- A message of a level with named values. -/
structure Record where
  level : Level
  message : String
  fields : List (String × Field) := []
  deriving DecidableEq

end Sluice
