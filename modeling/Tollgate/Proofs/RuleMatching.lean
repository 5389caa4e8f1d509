import Tollgate.Rules

/-!
# Matching destinations against rules

Texts that are no patterns are left out when rules are compiled, so the index of a rule is not that
of its text. It counts the patterns before it: `PatternLanguage.firstMatch_append` splits a list of
texts and shifts the index by the patterns of the first part, and `firstMatch_eq_some_iff` follows
by splitting at the first text that blocks.

All this holds in every pattern language.
-/

namespace Tollgate

namespace PatternLanguage

variable {π : Type} (language : PatternLanguage π)

/-- Whether a text is a pattern. -/
def isPattern (text : String) : Bool := (language.compile? text).isSome

/-- Whether a text is a pattern that matches a destination. -/
def blocks (text destination : String) : Bool :=
  (language.compile? text).any (language.isMatch · destination)

/-- The index, among the patterns of a list of texts, of the first one that matches. -/
def firstMatch (texts : List String) (destination : String) : Option Nat :=
  (texts.filterMap language.compile?).findIdx? (language.isMatch · destination)

/-- The second list is the first with texts put in anywhere that are no patterns. -/
inductive Pads : List String → List String → Prop where
  | nil : Pads [] []
  | keep {texts padded : List String} (text : String) (rest : Pads texts padded) :
    Pads (text :: texts) (text :: padded)
  | insert {text : String} {texts padded : List String}
    (noPattern : language.isPattern text = false) (rest : Pads texts padded) :
    Pads texts (text :: padded)

variable {language} {text destination : String} {texts more padded : List String} {index : Nat}

theorem blocks_iff :
    language.blocks text destination = true ↔
      ∃ pattern, language.compile? text = some pattern ∧
        language.isMatch pattern destination = true :=
  Option.any_eq_true _ _

/-! ### The first match -/

theorem firstMatch_eq_none_iff :
    language.firstMatch texts destination = none ↔
      ∀ text ∈ texts, language.blocks text destination = false := by
  simp only [firstMatch, List.findIdx?_eq_none_iff, List.mem_filterMap, ← Bool.not_eq_true,
    blocks_iff]
  constructor
  · rintro unmatched text member ⟨pattern, compiled, matched⟩
    exact unmatched pattern ⟨text, member, compiled⟩ matched
  · rintro unblocked pattern ⟨text, member, compiled⟩ matched
    exact unblocked text member ⟨pattern, compiled, matched⟩

/-- Behind other texts a match is shifted by their patterns. -/
theorem firstMatch_append :
    language.firstMatch (texts ++ more) destination =
      (language.firstMatch texts destination).or
        ((language.firstMatch more destination).map (· + texts.countP language.isPattern)) := by
  have patterns : (texts.filterMap language.compile?).length = texts.countP language.isPattern :=
    List.length_filterMap_eq_countP
  rw [firstMatch, List.filterMap_append, List.findIdx?_append, patterns]
  rfl

theorem firstMatch_cons_of_blocks (blocked : language.blocks text destination = true) :
    language.firstMatch (text :: texts) destination = some 0 := by
  obtain ⟨pattern, compiled, matched⟩ := blocks_iff.1 blocked
  rw [firstMatch, List.filterMap_cons_some compiled, List.findIdx?_cons, if_pos matched]

/-- The first match is the first text that blocks, and its index counts the patterns before. -/
theorem firstMatch_eq_some_iff :
    language.firstMatch texts destination = some index ↔
      ∃ before text after, texts = before ++ text :: after ∧
        language.blocks text destination = true ∧
        (∀ earlier ∈ before, language.blocks earlier destination = false) ∧
        before.countP language.isPattern = index := by
  have split {before after : List String} {text : String}
      (blocked : language.blocks text destination = true)
      (free : ∀ earlier ∈ before, language.blocks earlier destination = false) :
      language.firstMatch (before ++ text :: after) destination =
        some (before.countP language.isPattern) := by
    rw [firstMatch_append, firstMatch_eq_none_iff.2 free, firstMatch_cons_of_blocks blocked]
    simp
  constructor
  · intro found
    cases first : texts.find? (language.blocks · destination) with
    | none =>
      have free : language.firstMatch texts destination = none := by
        rw [firstMatch_eq_none_iff]
        simpa using first
      rw [free] at found
      cases found
    | some text =>
      obtain ⟨blocked, before, after, rfl, free⟩ := List.find?_eq_some_iff_append.1 first
      have free' : ∀ earlier ∈ before, language.blocks earlier destination = false := by
        simpa using free
      rw [split blocked free'] at found
      exact ⟨before, text, after, rfl, blocked, free', Option.some.inj found⟩
  · rintro ⟨before, text, after, rfl, blocked, free, rfl⟩
    exact split blocked free

/-- Texts that are no patterns leave nothing behind. -/
theorem Pads.filterMap_eq (pads : language.Pads texts padded) :
    padded.filterMap language.compile? = texts.filterMap language.compile? := by
  induction pads with
  | nil => rfl
  | keep text _ ih => simp [List.filterMap_cons, ih]
  | insert noPattern _ ih =>
    rw [isPattern, Option.isSome_eq_false_iff, Option.isNone_iff_eq_none] at noPattern
    rw [List.filterMap_cons_none noPattern, ih]

end PatternLanguage

namespace CompiledRules

variable {π : Type} {language : PatternLanguage π} {rules : RuleSet} {destination : String}

theorem firstDomainMatch_compile :
    (compile language rules).firstDomainMatch language destination =
      language.firstMatch rules.domainPatterns destination := rfl

/-- What is blocked is what some text blocks. -/
theorem matchDomain_compile_iff :
    (compile language rules).matchDomain language destination = true ↔
      ∃ text ∈ rules.domainPatterns, language.blocks text destination = true := by
  rw [matchDomain, firstDomainMatch_compile, Option.isSome_iff_ne_none, ne_eq,
    PatternLanguage.firstMatch_eq_none_iff]
  simp

theorem matchProtocol_compile_iff {protocol : String} :
    (compile language rules).matchProtocol protocol = true ↔ protocol ∈ rules.protocols := by
  rw [matchProtocol, decide_eq_true_eq, compile, List.mem_eraseDups]

/-- In every pattern language: the first rule that matches a destination is that of the first text
that blocks it, under the number of patterns before that text, and there is none exactly if no text
blocks it. So a destination is blocked exactly if some text blocks it. Texts that are no patterns
may be put in anywhere without a change to the compiled rules, texts in another order block the same
destinations, and texts that are added at the end leave the indices of matches as they were.
Protocols are blocked exactly if they are listed, in whatever order and however often. -/
theorem rules_block_union (language : PatternLanguage π) (rules : RuleSet) (destination : String) :
    (∀ index, (compile language rules).firstDomainMatch language destination = some index ↔
      ∃ before text after, rules.domainPatterns = before ++ text :: after ∧
        language.blocks text destination = true ∧
        (∀ earlier ∈ before, language.blocks earlier destination = false) ∧
        before.countP language.isPattern = index) ∧
    ((compile language rules).firstDomainMatch language destination = none ↔
      ∀ text ∈ rules.domainPatterns, language.blocks text destination = false) ∧
    ((compile language rules).matchDomain language destination = true ↔
      ∃ text ∈ rules.domainPatterns, language.blocks text destination = true) ∧
    (∀ padded, language.Pads rules.domainPatterns padded →
      compile language { rules with domainPatterns := padded } = compile language rules) ∧
    (∀ reordered, reordered.Perm rules.domainPatterns →
      (compile language { rules with domainPatterns := reordered }).matchDomain language
          destination =
        (compile language rules).matchDomain language destination) ∧
    (∀ more index, (compile language rules).firstDomainMatch language destination = some index →
      (compile language { rules with domainPatterns := rules.domainPatterns ++ more }).firstDomainMatch
        language destination = some index) ∧
    (∀ protocol, (compile language rules).matchProtocol protocol = true ↔
      protocol ∈ rules.protocols) ∧
    ∀ listed, (∀ protocol, protocol ∈ listed ↔ protocol ∈ rules.protocols) →
      ∀ protocol, (compile language { rules with protocols := listed }).matchProtocol protocol =
        (compile language rules).matchProtocol protocol := by
  refine ⟨fun _ => PatternLanguage.firstMatch_eq_some_iff, PatternLanguage.firstMatch_eq_none_iff,
    matchDomain_compile_iff, ?_, ?_, ?_, fun _ => matchProtocol_compile_iff, ?_⟩
  · intro padded pads
    simp only [compile, pads.filterMap_eq]
  · intro reordered perm
    rw [Bool.eq_iff_iff, matchDomain_compile_iff, matchDomain_compile_iff]
    simp only [perm.mem_iff]
  · intro more index found
    rw [firstDomainMatch_compile] at found ⊢
    rw [PatternLanguage.firstMatch_append, found, Option.some_or]
  · intro listed same protocol
    rw [Bool.eq_iff_iff, matchProtocol_compile_iff, matchProtocol_compile_iff]
    exact same protocol

/-- Two of four texts are no patterns, so the last is the second rule. It stays the second with
another text that is no pattern in front and with one more text at the end, and it blocks in every
order. -/
theorem rules_block_union_skipping :
    ∃ (language : PatternLanguage Pattern) (rules padded reordered : RuleSet),
      language = Pattern.language ∧
      rules = ⟨["(", "ads", "[", "cdn"], ["quic"]⟩ ∧
      padded = { rules with domainPatterns := ["*", "(", "ads", "[", "cdn"] } ∧
      reordered = { rules with domainPatterns := ["cdn", "[", "ads", "("] } ∧
      (compile language rules).firstDomainMatch language "cdn.example" = some 1 ∧
      compile language padded = compile language rules ∧
      (compile language reordered).matchDomain language "cdn.example" =
        (compile language rules).matchDomain language "cdn.example" ∧
      (compile language { rules with
        domainPatterns := rules.domainPatterns ++ ["example"] }).firstDomainMatch language
          "cdn.example" = some 1 ∧
      (compile language rules).matchProtocol "quic" = true := by
  let language := Pattern.language
  let rules : RuleSet := ⟨["(", "ads", "[", "cdn"], ["quic"]⟩
  obtain ⟨first, -, -, padded, reordered, appended, listed, -⟩ :=
    rules_block_union language rules "cdn.example"
  have found : (compile language rules).firstDomainMatch language "cdn.example" = some 1 :=
    (first 1).2 ⟨["(", "ads", "["], "cdn", [], rfl, by decide +kernel, by decide +kernel,
      by decide +kernel⟩
  have pads : language.Pads rules.domainPatterns ["*", "(", "ads", "[", "cdn"] :=
    .insert (by decide +kernel) (.keep _ (.keep _ (.keep _ (.keep _ .nil))))
  exact ⟨language, rules, _, _, rfl, rfl, rfl, rfl, found, padded _ pads,
    reordered _ (by decide), appended _ 1 found, (listed "quic").2 (by decide)⟩

end CompiledRules

end Tollgate
