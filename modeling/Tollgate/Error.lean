/-!
# Errors

The causes for which an operation of the gate fails, and the one place where their wording is.
-/

namespace Tollgate

/-- Why an operation failed. -/
inductive Error where
  | unknownScope (scope : String)
  | scopeExists (scope : String)
  | fetch (detail : String)
  | sync (detail : String)
  | report (detail : String)
  | config (detail : String)
  | internal (detail : String)
deriving DecidableEq, Repr

/-- The text that tells an operator what went wrong. -/
def Error.message : Error → String
  | .unknownScope scope => "unknown scope: " ++ scope
  | .scopeExists scope => "scope already active: " ++ scope
  | .fetch detail => "control plane fetch failed: " ++ detail
  | .sync detail => "online ip sync failed: " ++ detail
  | .report detail => "traffic report failed: " ++ detail
  | .config detail => "invalid configuration: " ++ detail
  | .internal detail => "internal error: " ++ detail

end Tollgate
