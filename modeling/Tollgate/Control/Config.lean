import Tollgate.Control.Records
import Tollgate.Error

/-!
# Configuration

What an operator gives a scope when it is activated, and a coordinator when it is built.
-/

namespace Tollgate

/-- The state a scope starts in. -/
structure ScopeConfig where
  limits : NodeLimits := {}
  dynamicLimit : Option DynamicLimit := none
  ipRecorderEnabled : Bool := false
deriving DecidableEq, Repr, Inhabited

/-- How often a coordinator pulls and pushes, and the shortest interval it lets the control plane
set. -/
structure CoordinatorConfig where
  pullIntervalSecs : UInt64 := 60
  pushIntervalSecs : UInt64 := 60
  minIntervalSecs : UInt64 := 5
deriving DecidableEq, Repr, Inhabited

namespace CoordinatorConfig

/-- The seconds between pulls. -/
def pullInterval (config : CoordinatorConfig) : UInt64 :=
  max config.pullIntervalSecs config.minIntervalSecs

/-- The seconds between pushes. -/
def pushInterval (config : CoordinatorConfig) : UInt64 :=
  max config.pushIntervalSecs config.minIntervalSecs

/-- Both intervals must be positive. -/
def validate (config : CoordinatorConfig) : Except Error Unit :=
  if config.pullInterval = 0 ∨ config.pushInterval = 0 then
    .error (.config "reconciliation intervals must be non-zero")
  else .ok ()

end CoordinatorConfig

end Tollgate
