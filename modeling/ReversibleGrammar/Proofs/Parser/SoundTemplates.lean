/-
# Grammars whose templates are not at fault

What a template can be at fault for shows in its slots. If each names an element of its
rule, no child is ever missed, in either direction, since a rule hands its template as many
children as it has elements. If besides no rule names an element twice, nothing clashes when
a value is taken apart; and if the templates name no attributes and give lists no tails,
nothing is missed when one is built. Then only the grammar around the templates is left to
stop a search: the symbol asked for has no rules, or too many symbols are nested.

Key definitions: `SearchFault.OutsideTemplates`.
Key theorems: `Parser.defect_of_error_mem_parse`, `Parser.defect_of_error_mem_realize`,
`Parser.checked_templates_never_fail`.
-/
import ReversibleGrammar.Proofs.Parser.Defects
import ReversibleGrammar.Proofs.Template.Apart
import ReversibleGrammar.Proofs.Template.Total

namespace ReversibleGrammar

/-- The fault is not one of a template: the symbol asked for has no rules, or more symbols
are nested than the limit allows. -/
inductive SearchFault.OutsideTemplates (limit : Nat) (symbol : String) : SearchFault → Prop
  | noRules : OutsideTemplates limit symbol (.undefinedSymbol symbol)
  | tooDeep (inner : String) : OutsideTemplates limit symbol (.depthExceeded inner limit)

/-! ### One rule -/

namespace Rule

variable {rule : Rule} {cause : TemplateFault} {index count : Nat}

theorem not_failsToBuild_noChild
    (inside : ∀ index ∈ rule.template.indexes, index < rule.rhs.length) :
    ¬ rule.FailsToBuild (.noChild index count) := by
  rintro ⟨children, sameLength, fault⟩
  cases fault with
  | noChild named outside =>
    rw [sameLength] at outside
    exact absurd (inside index named) (Nat.not_lt.mpr outside)

theorem not_breaksOn_noChild
    (inside : ∀ index ∈ rule.template.indexes, index < rule.rhs.length) :
    ¬ rule.BreaksOn (.noChild index count) := by
  intro breaks
  cases breaks.failsToDecompose with
  | noChild named outside => exact absurd (inside index named) (Nat.not_lt.mpr outside)

theorem not_breaksOn (inside : ∀ index ∈ rule.template.indexes, index < rule.rhs.length)
    (once : rule.template.indexes.Nodup) : ¬ rule.BreaksOn cause := by
  rintro ⟨fragment, failed⟩
  obtain ⟨index, named, outside, -⟩ := Template.noChild_of_decompose once failed
  exact absurd (inside index named) (Nat.not_lt.mpr outside)

theorem not_failsToBuild (total : rule.template.Total rule.rhs.length) :
    ¬ rule.FailsToBuild cause := by
  rintro ⟨children, sameLength, fault⟩
  cases fault with
  | noChild named outside =>
    rw [sameLength] at outside
    exact absurd (total.inside _ named) (Nat.not_lt.mpr outside)
  | noAttribute mem => cases total.attributeFree _ mem
  | tailNotList mem isTail =>
    rw [total.tailFree _ mem] at isTail
    cases isTail

end Rule

/-! ### Streams -/

theorem Grammar.Defect.outsideTemplates {g : Grammar} {limit : Nat} {symbol : String}
    {Fails : Rule → TemplateFault → Prop} {fault : SearchFault}
    (never : ∀ rule ∈ g.rules, ∀ cause, ¬ Fails rule cause)
    (defect : g.Defect limit Fails symbol fault) : fault.OutsideTemplates limit symbol := by
  cases defect with
  | tooDeep => exact .tooDeep _
  | inRule _ mem fails => exact absurd fails (never _ (mem_rulesOf.mp mem).1 _)

namespace Parser

variable {p : Parser} {symbol : String} {fault : SearchFault}

/-- What a stream of parses comes to: the symbol has no rules, or it is a defect that the
symbol reaches. -/
theorem defect_of_error_mem_parse {words : List Word}
    (h : .error fault ∈ (p.parse symbol words).toList) :
    fault = .undefinedSymbol symbol ∨
      p.grammar.Defect p.maxDepth Rule.FailsToBuild symbol fault := by
  by_cases noRules : p.grammar.rulesOf symbol = []
  · rw [parse_of_rulesOf_eq_nil noRules] at h
    cases List.mem_singleton.mp h
    exact .inl rfl
  · have defined := Grammar.mem_defined_of_rulesOf noRules
    rw [parse, Search.error_mem_feed_iff, ← fault?_parse, fault?_parse_eq_derive] at h
    exact .inr (Grammar.defect_of_derive p.complete defined h)

theorem defect_of_error_mem_realize {value : Value}
    (h : .error fault ∈ (p.realize symbol value).toList) :
    fault = .undefinedSymbol symbol ∨ p.grammar.Defect p.maxDepth Rule.BreaksOn symbol fault := by
  by_cases noRules : p.grammar.rulesOf symbol = []
  · rw [realize_of_rulesOf_eq_nil noRules] at h
    cases List.mem_singleton.mp h
    exact .inl rfl
  · have defined := Grammar.mem_defined_of_rulesOf noRules
    rw [realize, Search.error_mem_feed_iff, realizeSearch_eq] at h
    exact .inr (Grammar.defect_of_realize p.complete defined h)

/-- **A check of the slots rules out the faults of templates.** If every slot names an
element of its rule, no stream reports a missing child. If besides no rule has two slots for
one element, no stream of realizations reports anything of a template, and if the templates
name no attributes and no list has a tail, no stream of parses does. -/
theorem checked_templates_never_fail (p : Parser)
    (inside : ∀ rule ∈ p.grammar.rules, ∀ index ∈ rule.template.indexes, index < rule.rhs.length)
    (symbol : String) :
    ((∀ words rule index count,
        .error (.inRule rule (.noChild index count)) ∉ (p.parse symbol words).toList) ∧
      ∀ value rule index count,
        .error (.inRule rule (.noChild index count)) ∉ (p.realize symbol value).toList) ∧
    ((∀ rule ∈ p.grammar.rules, rule.template.indexes.Nodup) →
      ∀ value fault, .error fault ∈ (p.realize symbol value).toList →
        fault.OutsideTemplates p.maxDepth symbol) ∧
    ((∀ rule ∈ p.grammar.rules, rule.template.AttributeFree ∧
        ∀ part ∈ rule.template.parts, part.tails = []) →
      ∀ words fault, .error fault ∈ (p.parse symbol words).toList →
        fault.OutsideTemplates p.maxDepth symbol) := by
  refine ⟨⟨fun words rule index count h => ?_, fun value rule index count h => ?_⟩,
    fun once value fault h => ?_, fun plain words fault h => ?_⟩
  · obtain noRules | defect := defect_of_error_mem_parse h
    · cases noRules
    · cases defect with
      | inRule _ mem fails =>
        exact Rule.not_failsToBuild_noChild (inside _ (Grammar.mem_rulesOf.mp mem).1) fails
  · obtain noRules | defect := defect_of_error_mem_realize h
    · cases noRules
    · cases defect with
      | inRule _ mem fails =>
        exact Rule.not_breaksOn_noChild (inside _ (Grammar.mem_rulesOf.mp mem).1) fails
  · obtain rfl | defect := defect_of_error_mem_realize h
    · exact .noRules
    · exact defect.outsideTemplates fun rule mem cause =>
        Rule.not_breaksOn (inside rule mem) (once rule mem)
  · obtain rfl | defect := defect_of_error_mem_parse h
    · exact .noRules
    · exact defect.outsideTemplates fun rule mem cause =>
        Rule.not_failsToBuild ⟨inside rule mem, (plain rule mem).1, (plain rule mem).2⟩

/-- A grammar of pairs, the second of which stands in a list, in which a sentence may end in
any number of exclamation marks. -/
def exclaimingParser : Parser where
  grammar := ⟨[
    ⟨"s", [.symbol "t"], .slot 0 none⟩,
    ⟨"s", [.symbol "s", .terminal (.literal "!")], .slot 0 none⟩,
    ⟨"t", [.terminal .textSpan], .slot 0 none⟩,
    ⟨"t", [.terminal .textSpan, .terminal (.literal "and"), .symbol "t"],
      .record "Pair" [.computed "rest" (.list [.slot 2 none] []), .computed "first" (.slot 0 none)]⟩]⟩
  complete := by decide
  maxDepth := 2

/-- Both searches come to a fault there, and it is not one of a template. -/
theorem exclaiming_never_fails :
    (exclaimingParser.parse "s" [.text ["a"]]).fault?.isSome ∧
      (exclaimingParser.realize "s" (.word (.text ["a"]))).fault?.isSome ∧
      (∀ fault, .error fault ∈ (exclaimingParser.parse "s" [.text ["a"]]).toList →
        fault.OutsideTemplates 2 "s") ∧
      ∀ fault, .error fault ∈ (exclaimingParser.realize "s" (.word (.text ["a"]))).toList →
        fault.OutsideTemplates 2 "s" := by
  have inside : ∀ rule ∈ exclaimingParser.grammar.rules, ∀ index ∈ rule.template.indexes,
      index < rule.rhs.length := by decide
  have once : ∀ rule ∈ exclaimingParser.grammar.rules, rule.template.indexes.Nodup := by decide
  have plain : ∀ rule ∈ exclaimingParser.grammar.rules, rule.template.AttributeFree ∧
      ∀ part ∈ rule.template.parts, part.tails = [] := by decide
  obtain ⟨-, realizing, parsing⟩ := checked_templates_never_fail exclaimingParser inside "s"
  exact ⟨rfl, rfl, parsing plain _, realizing once _⟩

end Parser

end ReversibleGrammar
