/-
# Rules that do not fit

A rule whose template comes to a mismatch is passed over: the symbol is realized as if it
did not have the rule. A rule whose template comes to a fault ends the search, after what
the rules before it have realized. Both hang on the order of the fields of the template,
where one of them does not fit the value of its name: only if the others can be gathered is
the rule passed over in whatever order they stand. If they clash with each other, they must
not stand in front of the one that does not fit.

Key definitions: `Parser.attempts`.
Key theorems: `Parser.realize_of_mismatch`, `Parser.realize_of_fault`,
`Parser.misfit_passes_over_unless_fault_before`, `Parser.misfit_not_always_passed_over`.
-/
import ReversibleGrammar.Proofs.Parser.Realizing
import ReversibleGrammar.Proofs.Template.Obstacles

namespace ReversibleGrammar
namespace Parser

open Template

/-- What some rules realize a value by, tried one after the other. -/
def attempts (p : Parser) (rules : List Rule) (value : Value) : Search SearchFault (List Word) :=
  rules |> Search.each fun rule => .trial fun _ =>
    Grammar.realizeBy (p.grammar.realize p.maxDepth p.maxDepth) rule (.value value)

variable {p : Parser} {symbol : String} {before after : List Rule} {rule : Rule} {value : Value}

theorem realizeSearch_of_rules {rules : List Rule} (hasRules : p.grammar.rulesOf symbol = rules)
    (nonempty : rules ≠ []) : p.realizeSearch symbol value = p.attempts rules value := by
  rw [realizeSearch_eq, Grammar.realize_of_rules (by rwa [hasRules]), hasRules, attempts]

/-- A rule whose template comes to a mismatch might as well not be there. -/
theorem realize_of_mismatch {reason : Mismatch}
    (hasRules : p.grammar.rulesOf symbol = before ++ rule :: after)
    (mismatch : rule.template.decompose rule.rhs.length (.value value) =
      .error (.mismatch reason)) :
    (p.realize symbol value).toList = (p.attempts (before ++ after) value).feed.toList := by
  have nothing : Grammar.realizeBy (p.grammar.realize p.maxDepth p.maxDepth) rule (.value value) =
      .done := by
    rw [Grammar.realizeBy, mismatch]
  have sameItems : (p.attempts (rule :: after) value).items = (p.attempts after value).items := by
    simp [attempts, Search.each, nothing, Search.append, Search.items]
  have sameFault : (p.attempts (rule :: after) value).fault? =
      (p.attempts after value).fault? := by
    simp [attempts, Search.each, nothing, Search.append, Search.fault?]
  simp only [attempts] at sameItems sameFault
  rw [realize, realizeSearch_of_rules hasRules (by simp), Search.toList_feed, Search.toList_feed,
    attempts, attempts, Search.items_each_append, Search.fault?_each_append, sameItems, sameFault,
    Search.items_each_append, Search.fault?_each_append]

/-- A rule whose template comes to a fault ends what is handed out. -/
theorem realize_of_fault {cause : TemplateFault}
    (hasRules : p.grammar.rulesOf symbol = before ++ rule :: after)
    (fault : rule.template.decompose rule.rhs.length (.value value) = .error (.fault cause))
    (reached : (p.attempts before value).fault? = none) :
    (p.realize symbol value).toList =
      (p.attempts before value).items.map .ok ++ [.error (.inRule rule cause)] := by
  have fails : Grammar.realizeBy (p.grammar.realize p.maxDepth p.maxDepth) rule (.value value) =
      .fail (.inRule rule cause) := by
    rw [Grammar.realizeBy, fault]
  have noItems : (p.attempts (rule :: after) value).items = [] := by
    simp [attempts, Search.each, fails, Search.append, Search.items]
  have isFault : (p.attempts (rule :: after) value).fault? = some (.inRule rule cause) := by
    simp [attempts, Search.each, fails, Search.append, Search.fault?]
  simp only [attempts] at noItems isFault reached ⊢
  rw [realize, realizeSearch_of_rules hasRules (by simp), Search.toList_feed, attempts,
    Search.items_each_append, Search.fault?_each_append, noItems, isFault, reached]
  simp

/-- **A field that does not fit is reported unless a fault comes before it.** Such a field keeps the
record from being taken apart. The template comes to a mismatch, and its rule is passed over, just
if the fields before the first that does not fit can be gathered; it comes to a fault, which ends
the search, just if one of these is at fault or clashes with those before it. It is a mismatch in
every order of the fields exactly if all fields that do fit can be gathered. -/
theorem misfit_passes_over_unless_fault_before (width : Nat) (tag : String) (fields : List Field)
    (held : FieldMap Value) (distinct : (fields.map Field.name).Nodup)
    (sameNames : SameNames fields held)
    (someMisfit : ∃ field ∈ fields, ∃ reason,
      decomposeHeld width tag held field = .error (.mismatch reason)) :
    (∀ flat, (record tag fields).decompose width (.value (.record tag held)) ≠ .ok flat) ∧
    (∀ reason, (record tag fields).decompose width (.value (.record tag held)) =
        .error (.mismatch reason) ↔
      MismatchFirst (decomposeHeld width tag held) fields (.blank width) reason) ∧
    (∀ cause, (record tag fields).decompose width (.value (.record tag held)) =
        .error (.fault cause) ↔
      FaultFirst (decomposeHeld width tag held) fields (.blank width) cause) ∧
    ((∀ reordered : List Field, reordered.Perm fields → ∃ reason,
        (record tag reordered).decompose width (.value (.record tag held)) =
          .error (.mismatch reason)) ↔
      ∃ flat, gather (decomposeHeld width tag held)
        (fields.filter fun field => !isMismatch (decomposeHeld width tag held field))
        (.blank width) = .ok flat) ∧
    ∀ (p : Parser) (symbol : String) (before after : List Rule) (rule : Rule),
      p.grammar.rulesOf symbol = before ++ rule :: after → rule.template = record tag fields →
      rule.rhs.length = width →
      (∀ reason, (record tag fields).decompose width (.value (.record tag held)) =
          .error (.mismatch reason) →
        (p.realize symbol (.record tag held)).toList =
          (p.attempts (before ++ after) (.record tag held)).feed.toList) ∧
      ∀ cause, (record tag fields).decompose width (.value (.record tag held)) =
          .error (.fault cause) →
        (p.attempts before (.record tag held)).fault? = none →
        (p.realize symbol (.record tag held)).toList =
          (p.attempts before (.record tag held)).items.map .ok ++ [.error (.inRule rule cause)] := by
  have apart : ∀ {reordered : List Field}, reordered.Perm fields →
      (record tag reordered).decompose width (.value (.record tag held)) =
        gather (decomposeHeld width tag held) reordered (.blank width) :=
    decompose_sameNames distinct sameNames
  have someMisfit' : ∃ field ∈ fields, isMismatch (decomposeHeld width tag held field) = true := by
    simpa only [isMismatch_iff] using someMisfit
  refine ⟨fun flat => ?_, fun reason => ?_, fun cause => ?_, ?_, ?_⟩
  · rw [apart (.refl fields)]
    exact not_gather_of_isMismatch someMisfit'
  · rw [apart (.refl fields), gather_eq_mismatch_iff]
  · rw [apart (.refl fields), gather_eq_fault_iff]
  · rw [← mismatch_in_every_order_iff someMisfit']
    refine forall_congr' fun reordered => forall_congr' fun perm => ?_
    rw [apart perm]
  · intro p symbol before after rule hasRules isRecord sameWidth
    rw [← isRecord, ← sameWidth]
    exact ⟨fun reason => realize_of_mismatch hasRules, fun cause => realize_of_fault hasRules⟩

/-- Two fields that both name the first child, behind or before a fixed one. -/
def namedTwice (fixedFirst : Bool) : List Field :=
  let both : List Field := [.computed "a" (.slot 0 none), .computed "b" (.slot 0 none)]
  let fixed : Field := .fixed "k" (.str "same")
  if fixedFirst then fixed :: both else both ++ [fixed]

/-- A record in which those two differ, and the fixed one does as well. -/
def twoNames : FieldMap Value :=
  FieldMap.ofList [("a", .word (.text ["x"])), ("b", .word (.text ["y"])), ("k", .str "other")]

/-- What the two fields clash in. -/
def namesClash : TemplateFault :=
  .mergeConflict 0 (.value (.word (.text ["x"]))) (.value (.word (.text ["y"])))

theorem twoNames_sameNames (fixedFirst : Bool) : SameNames (namedTwice fixedFirst) twoNames := by
  intro key
  rw [← FieldChain.mem_names]
  have names : twoNames.names = ["a", "b", "k"] := by rfl
  rw [names]
  cases fixedFirst
  · rfl
  · simp only [namedTwice, if_true, List.map_cons, List.map_nil, Field.name, List.mem_cons,
      List.not_mem_nil]
    grind

/-- A grammar whose first rule has those fields, and whose second rule fits the record. -/
def namesParser (fixedFirst : Bool) : Parser where
  grammar := ⟨[
    ⟨"s", [.symbol "n"], .record "P" (namedTwice fixedFirst)⟩,
    ⟨"s", [.symbol "n", .terminal (.literal "and"), .symbol "n"], .record "P"
      [.computed "a" (.slot 0 none), .computed "b" (.slot 2 none), .fixed "k" (.str "other")]⟩,
    ⟨"n", [.terminal .textSpan], .slot 0 none⟩]⟩
  complete := by cases fixedFirst <;> decide
  maxDepth := 1

theorem namedTwice_distinct (fixedFirst : Bool) :
    ((namedTwice fixedFirst).map Field.name).Nodup := by
  cases fixedFirst <;> decide

theorem namedTwice_misfit (fixedFirst : Bool) : ∃ field ∈ namedTwice fixedFirst, ∃ reason,
    decomposeHeld 1 "P" twoNames field = .error (.mismatch reason) := by
  refine ⟨.fixed "k" (.str "same"), ?_, _, rfl⟩
  cases fixedFirst <;> simp [namedTwice]

theorem namedTwice_clash : (record "P" (namedTwice false)).decompose 1
    (.value (.record "P" twoNames)) = .error (.fault namesClash) := by
  rfl

/-- Behind the two fields that clash, the fixed one is not looked at, and the search ends. In
front of them, it shows that the rule does not fit, and the next one does. -/
theorem namedTwice_reported_by_order :
    (∀ fixedFirst, ((namedTwice fixedFirst).map Field.name).Nodup ∧
      SameNames (namedTwice fixedFirst) twoNames ∧ ∃ field ∈ namedTwice fixedFirst, ∃ reason,
        decomposeHeld 1 "P" twoNames field = .error (.mismatch reason)) ∧
    FaultFirst (decomposeHeld 1 "P" twoNames) (namedTwice false) (.blank 1) namesClash ∧
    ((namesParser false).realize "s" (.record "P" twoNames)).toList =
      [.error (.inRule ⟨"s", [.symbol "n"], .record "P" (namedTwice false)⟩ namesClash)] ∧
    (∃ reason,
      MismatchFirst (decomposeHeld 1 "P" twoNames) (namedTwice true) (.blank 1) reason) ∧
    ((namesParser true).realize "s" (.record "P" twoNames)).toList =
      [.ok [.text ["x"], .marker "and", .text ["y"]]] := by
  have holds (fixedFirst : Bool) := misfit_passes_over_unless_fault_before 1 "P"
    (namedTwice fixedFirst) twoNames (namedTwice_distinct fixedFirst)
    (twoNames_sameNames fixedFirst) (namedTwice_misfit fixedFirst)
  obtain ⟨-, -, faults, -, parsers⟩ := holds false
  obtain ⟨-, mismatches, -, -, parsers'⟩ := holds true
  have ended := (parsers (namesParser false) "s" [] _ _ rfl rfl rfl).2 _ namedTwice_clash rfl
  have passed := (parsers' (namesParser true) "s" [] _ _ rfl rfl rfl).1 _ rfl
  refine ⟨fun fixedFirst => ?_, (faults _).mp namedTwice_clash, ended,
    ⟨_, (mismatches _).mp rfl⟩, passed⟩
  exact ⟨namedTwice_distinct fixedFirst, twoNames_sameNames fixedFirst, namedTwice_misfit fixedFirst⟩

/-- So a field that does not fit is not always reported, and the rule not always passed over. -/
theorem misfit_not_always_passed_over :
    ¬ ∀ (width : Nat) (tag : String) (fields : List Field) (held : FieldMap Value),
      (fields.map Field.name).Nodup → SameNames fields held →
      (∃ field ∈ fields, ∃ reason,
        decomposeHeld width tag held field = .error (.mismatch reason)) →
      ∃ reason, (record tag fields).decompose width (.value (.record tag held)) =
        .error (.mismatch reason) := by
  intro always
  obtain ⟨reason, mismatch⟩ := always 1 "P" (namedTwice false) twoNames
    (namedTwice_distinct false) (twoNames_sameNames false) (namedTwice_misfit false)
  rw [namedTwice_clash] at mismatch
  cases mismatch

end Parser
end ReversibleGrammar
