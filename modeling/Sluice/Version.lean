/-!
# Version

The version that the operator's interface reports.
-/

namespace Sluice

/-- The version of the operator's interface. -/
def version : String := "0.4.0"

end Sluice
