/-
# The defects that a search comes to

A search for a symbol runs searches for symbols that its rules refer to, and so on. It
passes their faults on as they are, and adds one of its own where no more symbols may
be nested, or where the template of a rule fails. So what comes out is the fault of some
symbol that is reached: the budget, or a rule of that symbol with what its template
is at fault for. That a symbol has no rules is found of the first one only, since all
others are defined. This needs an induction on the budget; the two searches share it,
for each is only known by what its fault can be, one symbol at a time.

Key definitions: `Grammar.Defect`, `Rule.FailsToBuild`, `Rule.FailsToDecompose`,
`EndsAtMostIn`.
Key theorems: `Grammar.fault?_realize_cases`, `Grammar.defect_of_fault?`,
`Parser.only_defects_surface`.
-/
import ReversibleGrammar.Proofs.Parser.Nesting
import ReversibleGrammar.Proofs.Parser.Realizing
import ReversibleGrammar.Proofs.Template.Faults

namespace ReversibleGrammar

/-- The template of the rule is at fault for some children, as many as its elements. -/
def Rule.FailsToBuild (rule : Rule) (cause : TemplateFault) : Prop :=
  ∃ children : List Value, children.length = rule.rhs.length ∧
    Template.BuildFault children rule.template cause

/-- The template of the rule is at fault for something that it takes apart. -/
def Rule.FailsToDecompose (rule : Rule) (cause : TemplateFault) : Prop :=
  Template.DecomposeFault rule.rhs.length rule.template cause

/-- Some fragment is not taken apart by the rule, and the template is at fault. -/
def Rule.BreaksOn (rule : Rule) (cause : TemplateFault) : Prop :=
  ∃ fragment, rule.template.decompose rule.rhs.length fragment = .error (.fault cause)

theorem Rule.BreaksOn.failsToDecompose {rule : Rule} {cause : TemplateFault} :
    rule.BreaksOn cause → rule.FailsToDecompose cause := by
  rintro ⟨fragment, failed⟩
  exact Template.decomposeFault_of_decompose failed

namespace Grammar

variable {g : Grammar} {limit budget : Nat} {symbol inner : String} {fault : SearchFault}

/-- What a search for the symbol can come to: more symbols are nested than allowed, or a
rule fails, of a symbol that is reached. -/
inductive Defect (g : Grammar) (limit : Nat) (Fails : Rule → TemplateFault → Prop)
    (symbol : String) : SearchFault → Prop
  | tooDeep {inner : String} (reached : g.Reaches symbol inner) (mem : inner ∈ g.defined) :
      g.Defect limit Fails symbol (.depthExceeded inner limit)
  | inRule {inner : String} {rule : Rule} {cause : TemplateFault} (reached : g.Reaches symbol inner)
      (mem : rule ∈ g.rulesOf inner) (fails : Fails rule cause) :
      g.Defect limit Fails symbol (.inRule rule cause)

variable {Fails Others : Rule → TemplateFault → Prop}

theorem Defect.mono (weaker : ∀ {rule cause}, Fails rule cause → Others rule cause)
    (defect : g.Defect limit Fails symbol fault) : g.Defect limit Others symbol fault := by
  cases defect with
  | tooDeep reached mem => exact .tooDeep reached mem
  | inRule reached mem fails => exact .inRule reached mem (weaker fails)

theorem Defect.of_refersTo (refers : g.RefersTo symbol inner)
    (defect : g.Defect limit Fails inner fault) : g.Defect limit Fails symbol fault := by
  cases defect with
  | tooDeep reached mem => exact .tooDeep (.head refers reached) mem
  | inRule reached mem fails => exact .inRule (.head refers reached) mem fails

/-! ### One symbol -/

/-- What the fault of a search for one symbol can be, if `nested` tells which faults the
searches for other symbols have. -/
inductive FaultCase (g : Grammar) (Fails : Rule → TemplateFault → Prop)
    (nested : String → SearchFault → Prop) (symbol : String) : SearchFault → Prop
  | noRules (none : g.rulesOf symbol = []) :
      FaultCase g Fails nested symbol (.undefinedSymbol symbol)
  | nested {inner : String} {fault : SearchFault} (refers : g.RefersTo symbol inner)
      (faulty : nested inner fault) : FaultCase g Fails nested symbol fault
  | fails {rule : Rule} {cause : TemplateFault} (mem : rule ∈ g.rulesOf symbol)
      (fails : Fails rule cause) : FaultCase g Fails nested symbol (.inRule rule cause)

theorem faultCase_of_derive {words : List Word}
    (h : (g.derive limit (budget + 1) symbol words).fault? = some fault) :
    g.FaultCase Rule.FailsToBuild
      (fun inner fault => ∃ left, (g.derive limit budget inner left).fault? = some fault)
      symbol fault := by
  rcases fault?_derive_cases h with ⟨noRules, rfl⟩ | ⟨inner, left, nests, faulty⟩ |
    ⟨rule, mem, forest, children, cause, derived, failed, rfl⟩
  · exact .noRules noRules
  · exact .nested nests.refersTo ⟨left, faulty⟩
  · exact .fails mem ⟨children, derived.length_eq, Template.buildFault_of_build failed⟩

/-- A fault met in realizing elements is that of a symbol among them. -/
theorem exists_of_fault?_realizeElements {sub : String → Fragment → Search SearchFault (List Word)} :
    ∀ {elements : List Element} {places : List (Option Fragment)},
      (realizeElements sub elements places).fault? = some fault →
        ∃ name fragment, .symbol name ∈ elements ∧ (sub name fragment).fault? = some fault
  | [], _, h => by cases h
  | .terminal terminal :: rest, places, h => by
    unfold realizeElements at h
    split at h
    · rw [Search.fault?_map] at h
      obtain ⟨name, fragment, mem, faulty⟩ := exists_of_fault?_realizeElements h
      exact ⟨name, fragment, List.mem_cons_of_mem _ mem, faulty⟩
    · cases h
  | .symbol name :: rest, places, h => by
    unfold realizeElements at h
    rcases Search.fault?_of_bind h with here | ⟨front, -, later⟩
    · exact ⟨name, _, List.mem_cons_self, here⟩
    · rw [Search.fault?_map] at later
      obtain ⟨other, fragment, mem, faulty⟩ := exists_of_fault?_realizeElements later
      exact ⟨other, fragment, List.mem_cons_of_mem _ mem, faulty⟩

theorem faultCase_of_realize {fragment : Fragment}
    (h : (g.realize limit (budget + 1) symbol fragment).fault? = some fault) :
    g.FaultCase Rule.BreaksOn
      (fun inner fault => ∃ given, (g.realize limit budget inner given).fault? = some fault)
      symbol fault := by
  rw [realize_succ] at h
  split at h
  · rename_i noRules
    cases h
    exact .noRules noRules
  · obtain ⟨rule, mem, tried⟩ := Search.fault?_of_each h
    rw [Search.fault?, realizeBy] at tried
    split at tried
    · obtain ⟨inner, given, element, faulty⟩ := exists_of_fault?_realizeElements tried
      exact .nested ⟨rule, mem, element⟩ ⟨given, faulty⟩
    · cases tried
    · rename_i cause failed
      cases tried
      exact .fails mem ⟨fragment, failed⟩

/-! ### All symbols that are reached -/

/-- In a complete grammar, searches that come to a fault of their symbol, one symbol at a
time, come to a defect from every symbol that is defined. -/
theorem defect_of_fault? {ι : Type} (fault? : Nat → String → ι → Option SearchFault)
    (complete : g.Complete)
    (deepest : ∀ symbol x, fault? 0 symbol x = some (.depthExceeded symbol limit))
    (step : ∀ {budget symbol x fault}, fault? (budget + 1) symbol x = some fault →
      g.FaultCase Fails (fun inner fault => ∃ y, fault? budget inner y = some fault) symbol fault) :
    ∀ {budget : Nat} {symbol : String} {x : ι}, symbol ∈ g.defined →
      fault? budget symbol x = some fault → g.Defect limit Fails symbol fault
  | 0, symbol, x, defined, h => by
    rw [deepest symbol x] at h
    cases h
    exact .tooDeep .refl defined
  | budget + 1, symbol, x, defined, h => by
    cases step h with
    | noRules none => exact absurd none (rulesOf_ne_nil defined)
    | nested refers faulty =>
      obtain ⟨y, faulty⟩ := faulty
      have defect : g.Defect limit Fails _ fault :=
        defect_of_fault? fault? complete deepest step (refers.mem_defined complete) faulty
      exact defect.of_refersTo refers
    | fails mem fails => exact .inRule .refl mem fails

theorem defect_of_derive (complete : g.Complete) {words : List Word} (defined : symbol ∈ g.defined)
    (h : (g.derive limit budget symbol words).fault? = some fault) :
    g.Defect limit Rule.FailsToBuild symbol fault :=
  defect_of_fault? (fun budget symbol words => (g.derive limit budget symbol words).fault?)
    complete (fun _ _ => rfl) faultCase_of_derive defined h

theorem defect_of_realize (complete : g.Complete) {fragment : Fragment}
    (defined : symbol ∈ g.defined)
    (h : (g.realize limit budget symbol fragment).fault? = some fault) :
    g.Defect limit Rule.BreaksOn symbol fault :=
  defect_of_fault? (fun budget symbol given => (g.realize limit budget symbol given).fault?)
    complete (fun _ _ => rfl) faultCase_of_realize defined h

theorem mem_defined_of_rulesOf (someRules : g.rulesOf symbol ≠ []) : symbol ∈ g.defined := by
  obtain ⟨rule, mem⟩ := List.exists_mem_of_ne_nil _ someRules
  obtain ⟨mem, named⟩ := mem_rulesOf.mp mem
  exact mem_defined.mpr ⟨rule, mem, named⟩

end Grammar

/-! ### Streams -/

/-- There are results and then an end, or results and then, as the last item, a fault of
the kind. -/
def EndsAtMostIn {α : Type} (Kind : SearchFault → Prop) (outcomes : List (Except SearchFault α)) :
    Prop :=
  ∃ (results : List α) (fault? : Option SearchFault),
    outcomes = results.map .ok ++ fault?.toList.map .error ∧ ∀ fault ∈ fault?, Kind fault

theorem Search.endsAtMostIn {α : Type} {Kind : SearchFault → Prop} {x : Search SearchFault α}
    (kind : ∀ fault, x.fault? = some fault → Kind fault) : EndsAtMostIn Kind x.feed.toList :=
  ⟨x.items, x.fault?, x.toList_feed, kind⟩

namespace Parser

variable {p : Parser} {symbol : String}

theorem parse_of_rulesOf_eq_nil (noRules : p.grammar.rulesOf symbol = []) (words : List Word) :
    (p.parse symbol words).toList = [.error (.undefinedSymbol symbol)] := by
  rw [parse, parseSearch_eq, Grammar.derive, noRules]
  rfl

theorem realize_of_rulesOf_eq_nil (noRules : p.grammar.rulesOf symbol = []) (value : Value) :
    (p.realize symbol value).toList = [.error (.undefinedSymbol symbol)] := by
  rw [realize, realizeSearch_eq, Grammar.realize_succ, noRules]
  rfl

/-- **Only defects of the grammar surface, once and last.** A symbol without rules is
reported as such, and nothing else comes. From a symbol with rules come results, and
then at most one fault: more symbols are nested than the budget allows, the innermost of
them one that is reached and defined, or a rule of a symbol that is reached has a
template that fails to build, in parsing, or to take apart, in realizing. -/
theorem only_defects_surface (p : Parser) (symbol : String) :
    (p.grammar.rulesOf symbol = [] →
      (∀ words, (p.parse symbol words).toList = [.error (.undefinedSymbol symbol)]) ∧
      ∀ value, (p.realize symbol value).toList = [.error (.undefinedSymbol symbol)]) ∧
    (p.grammar.rulesOf symbol ≠ [] →
      (∀ words, EndsAtMostIn (p.grammar.Defect p.maxDepth Rule.FailsToBuild symbol)
        (p.parse symbol words).toList) ∧
      ∀ value, EndsAtMostIn (p.grammar.Defect p.maxDepth Rule.FailsToDecompose symbol)
        (p.realize symbol value).toList) := by
  refine ⟨fun noRules => ⟨parse_of_rulesOf_eq_nil noRules, realize_of_rulesOf_eq_nil noRules⟩,
    fun someRules => ?_⟩
  have defined := Grammar.mem_defined_of_rulesOf someRules
  constructor
  · intro words
    refine Search.endsAtMostIn fun fault h => ?_
    rw [← fault?_parse, fault?_parse_eq_derive] at h
    exact Grammar.defect_of_derive p.complete defined h
  · intro value
    refine Search.endsAtMostIn fun fault h => ?_
    rw [realizeSearch_eq] at h
    exact (Grammar.defect_of_realize p.complete defined h).mono Rule.BreaksOn.failsToDecompose

/-- A parser whose only rule has a slot for a child that it does not have. -/
def slotless : Parser where
  grammar := ⟨[⟨"s", [.terminal .textSpan], .slot 1 none⟩]⟩
  complete := by decide

/-- The rule of that parser fails in both directions; a symbol without rules is reported. -/
theorem slotless_surfaces :
    slotless.grammar.rulesOf "t" = [] ∧ slotless.grammar.rulesOf "s" ≠ [] ∧
      (slotless.parse "t" []).toList = [.error (.undefinedSymbol "t")] ∧
      EndsAtMostIn (slotless.grammar.Defect slotless.maxDepth Rule.FailsToBuild "s")
        (slotless.parse "s" [.text ["a"]]).toList ∧
      EndsAtMostIn (slotless.grammar.Defect slotless.maxDepth Rule.FailsToDecompose "s")
        (slotless.realize "s" .null).toList ∧
      (slotless.parse "s" [.text ["a"]]).fault?.isSome ∧ (slotless.realize "s" .null).fault?.isSome := by
  have noRules : slotless.grammar.rulesOf "t" = [] := rfl
  have someRules : slotless.grammar.rulesOf "s" ≠ [] := List.cons_ne_nil _ _
  have missing := (only_defects_surface slotless "t").1 noRules
  have surfacing := (only_defects_surface slotless "s").2 someRules
  exact ⟨noRules, someRules, missing.1 [], surfacing.1 _, surfacing.2 _, rfl, rfl⟩

end Parser

end ReversibleGrammar
