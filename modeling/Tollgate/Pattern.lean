import Tollgate.Pattern.Matching
import Tollgate.Pattern.Footprint

/-!
# Patterns

A pattern is compiled once and then asked whether it matches anywhere in a text. Compiling fails on
text that is no pattern and on patterns whose automata would be too large.
-/

namespace Tollgate

/-- A pattern that has been accepted, with the text it was written as. -/
structure Pattern where
  source : String
  regex : Pattern.Regex

namespace Pattern

/-- The pattern that a text writes, or why it is refused. -/
def compile (source : String) : Except Fault Pattern := do
  let regex ← Regex.ofString source
  if regex.fits then .ok ⟨source, regex⟩ else .error .tooLarge

/-- The pattern that a text writes, if it is accepted. -/
def compile? (source : String) : Option Pattern := (compile source).toOption

/-- Whether the pattern matches anywhere in a text. -/
def isMatch (pattern : Pattern) (text : String) : Bool := pattern.regex.isMatch text

end Pattern

end Tollgate
