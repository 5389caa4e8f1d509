import Tollgate.Control.Records
import Tollgate.Pattern

/-!
# Rules

The rules of a scope, compiled: the domain patterns that are valid, in their order, and the set of
blocked protocol names. Nothing here depends on what patterns are; a pattern language says which
texts are patterns and when a pattern matches.
-/

namespace Tollgate

/-- A pattern language: the patterns that texts write, and when a pattern matches a text. -/
structure PatternLanguage (π : Type) where
  compile? : String → Option π
  isMatch : π → String → Bool

/-- The pattern language of domain rules. -/
def Pattern.language : PatternLanguage Pattern where
  compile? := Pattern.compile?
  isMatch := Pattern.isMatch

/-- Compiled rules. -/
structure CompiledRules (π : Type) where
  domains : List π := []
  protocols : List String := []
deriving Inhabited

namespace CompiledRules

variable {π : Type}

/-- The rules of a rule set. Texts that are no patterns are left out, and a protocol counts once. -/
def compile (language : PatternLanguage π) (rules : RuleSet) : CompiledRules π where
  domains := rules.domainPatterns.filterMap language.compile?
  protocols := rules.protocols.eraseDups

/-- The index of the first domain rule that matches a destination. -/
def firstDomainMatch (language : PatternLanguage π) (rules : CompiledRules π)
    (destination : String) : Option Nat :=
  rules.domains.findIdx? (language.isMatch · destination)

/-- Whether some domain rule matches a destination. -/
def matchDomain (language : PatternLanguage π) (rules : CompiledRules π)
    (destination : String) : Bool :=
  (rules.firstDomainMatch language destination).isSome

/-- Whether a protocol is listed. -/
def matchProtocol (rules : CompiledRules π) (protocol : String) : Bool :=
  protocol ∈ rules.protocols

/-- The number of domain rules. -/
def domainCount (rules : CompiledRules π) : Nat := rules.domains.length

/-- The number of protocol rules. -/
def protocolCount (rules : CompiledRules π) : Nat := rules.protocols.length

end CompiledRules

end Tollgate
