/-
# The syntax of rules

What the text of a grammar looks like, rule after rule to the end of the text, and that
the reader of rules takes just such texts. A rule is refused for the first part of it that
is refused. Neither success nor refusal depends on the blanks in front.

Key definitions: `Notation.SpellsElements`, `Notation.SpellsRule`, `Notation.SpellsRules`,
`Notation.RefusesRule`.
Key theorems: `Notation.readRule_takes_iff`, `Notation.readRule_error_iff`,
`Notation.readRules_eq_ok_iff`, `Notation.readRules_of_skipBlank_eq`.
-/
import ReversibleGrammar.Proofs.Notation.Syntax
import ReversibleGrammar.Proofs.Success

namespace ReversibleGrammar
namespace Notation

variable {s rest : List Char}

/-- The text spells elements up to the arrow, and the rest follows. -/
inductive SpellsElements : List Char → List Element → List Char → Prop
  | arrow {s rest : List Char} (seen : skipBlank s = '=' :: '>' :: rest) : SpellsElements s [] rest
  | more {s after rest : List Char} {element : Element} {elements : List Element}
    (first : (readElement s).Takes element after) (others : SpellsElements after elements rest) :
    SpellsElements s (element :: elements) rest

/-- The text spells a rule, and the rest follows. -/
inductive SpellsRule : List Char → Rule → List Char → Prop
  | rule {s afterName afterDefines afterElements afterTemplate rest : List Char} {name : String}
    {rhs : List Element} {template : Template} (isName : (readName s).Takes name afterName)
    (defines : skipBlank afterName = ':' :: ':' :: '=' :: afterDefines)
    (elements : SpellsElements afterDefines rhs afterElements)
    (builds : SpellsExpression afterElements (.computed template) afterTemplate)
    (semicolon : skipBlank afterTemplate = ';' :: rest) : SpellsRule s ⟨name, rhs, template⟩ rest

/-- The text spells rules to its end. -/
inductive SpellsRules : List Char → List Rule → Prop
  | done {s : List Char} (blank : skipBlank s = []) : SpellsRules s []
  | more {s after : List Char} {rule : Rule} {rules : List Rule} (first : SpellsRule s rule after)
    (others : SpellsRules after rules) : SpellsRules s (rule :: rules)

/-! ### Elements -/

/-- An element does not start with the arrow. -/
theorem not_arrow_of_takes {element : Element} {inside : List Char}
    (h : (readElement s).Takes element rest) : skipBlank s ≠ '=' :: '>' :: inside := by
  intro seen
  rcases readElement_takes_iff.mp h with ⟨_, literal, -⟩ | ⟨isClass, -⟩ | ⟨_, isName, -⟩
  · obtain ⟨_, quote, -⟩ := readLiteral_takes_iff.mp literal
    cases seen.symm.trans quote
  · cases seen.symm.trans (readClass_takes_iff.mp isClass).2
  · exact not_takes_name seen (by decide) isName

theorem SpellsElements.of_takes {s rest : List Char} {elements : List Element}
    (h : (readElements s).Takes elements rest) : SpellsElements s elements rest := by
  unfold readElements at h
  split at h
  · rename_i seen
    obtain ⟨rfl, rfl⟩ := Reading.takes_ok_iff.mp h
    exact .arrow seen
  · split at h
    · exact absurd h Reading.not_takes_error
    · rename_i element after le read
      split at h
      · exact absurd h Reading.not_takes_error
      · rename_i t read'
        obtain ⟨rfl, rfl⟩ := Reading.takes_ok_iff.mp h
        exact .more ⟨le, read⟩ (SpellsElements.of_takes ⟨t.shorter, read'⟩)
termination_by s.length

theorem SpellsElements.takes {elements : List Element} (h : SpellsElements s elements rest) :
    (readElements s).Takes elements rest := by
  induction h with
  | @arrow s rest seen =>
    unfold readElements
    split
    · rename_i seen'
      cases seen.symm.trans seen'
      exact ⟨_, rfl⟩
    · rename_i noArrow
      exact absurd seen (noArrow rest)
  | @more s after rest element elements first others ih =>
    obtain ⟨shorter, read'⟩ := ih
    unfold readElements
    split
    · rename_i seen
      exact absurd seen (not_arrow_of_takes first)
    · obtain ⟨le, read⟩ := first
      rw [read]
      dsimp only
      rw [read']
      exact ⟨_, rfl⟩

theorem SpellsElements.suffix {elements : List Element} (h : SpellsElements s elements rest) :
    rest <:+ s := by
  induction h with
  | arrow seen => exact (List.suffix_cons _ _).trans (suffix_of_skipBlank seen)
  | more first others ih => exact ih.trans ((readElement_inside _).of_takes first)

/-! ### Rules -/

/-- Behind a reader that takes a value, reading succeeds as what comes next does. -/
theorem bind_takes {α β : Type} {n m : Nat} {r : Reading α n} {a : α} {after : List Char} {b : β}
    {f : Taken α n → Reading β m} (first : r.Takes a after)
    (next : ∀ shorter, (f ⟨a, after, shorter⟩).Takes b rest) : Reading.Takes (r >>= f) b rest := by
  obtain ⟨shorter, rfl⟩ := first
  exact next shorter

/-- Behind a reader that takes a value, reading fails as what comes next does. -/
theorem bind_error_of_takes {α β : Type} {n m : Nat} {r : Reading α n} {a : α} {after : List Char}
    {problem : Problem} {f : Taken α n → Reading β m} (first : r.Takes a after)
    (next : ∀ shorter, f ⟨a, after, shorter⟩ = .error problem) : (r >>= f) = .error problem := by
  obtain ⟨shorter, rfl⟩ := first
  exact next shorter

theorem readRule_takes_iff {rule : Rule} : (readRule s).Takes rule rest ↔ SpellsRule s rule rest := by
  constructor
  · rintro ⟨le, h⟩
    obtain ⟨⟨name, afterName, le₁⟩, isName, h⟩ := bind_eq_ok_iff.mp h
    obtain ⟨⟨_, afterDefines, le₂⟩, defines, h⟩ := bind_eq_ok_iff.mp h
    obtain ⟨⟨rhs, afterElements, le₃⟩, elements, h⟩ := bind_eq_ok_iff.mp h
    obtain ⟨⟨e, afterTemplate, le₄⟩, builds, h⟩ := bind_eq_ok_iff.mp h
    cases e with
    | fixed value => cases h
    | computed template =>
      obtain ⟨⟨_, last, le₅⟩, semicolon, h⟩ := bind_eq_ok_iff.mp h
      cases h
      exact .rule ⟨le₁, isName⟩ (readDefines_takes_iff.mp ⟨le₂, defines⟩)
        (SpellsElements.of_takes ⟨le₃, elements⟩) (readExpression_takes_iff.mp ⟨le₄, builds⟩)
        (readMark_takes_iff.mp ⟨le₅, semicolon⟩)
  · intro h
    cases h with
    | rule isName defines elements builds semicolon =>
      refine bind_takes isName fun _ => ?_
      refine bind_takes (readDefines_takes_iff.mpr defines) fun _ => ?_
      refine bind_takes elements.takes fun _ => ?_
      refine bind_takes (readExpression_takes_iff.mpr builds) fun _ => ?_
      exact bind_takes (readMark_takes_iff.mpr semicolon) fun _ => ⟨_, rfl⟩

theorem SpellsRule.suffix {rule : Rule} (h : SpellsRule s rule rest) : rest <:+ s := by
  cases h with
  | rule isName defines elements builds semicolon =>
    have tail := (suffix_of_skipBlank semicolon).trans (builds.suffix.trans elements.suffix)
    have front := (suffix_of_skipBlank defines).trans ((readName_inside s).of_takes isName)
    exact tail.trans (((List.suffix_cons _ _).trans (List.suffix_cons _ _)).trans front)

theorem SpellsRule.not_blank {rule : Rule} (h : SpellsRule s rule rest) : skipBlank s ≠ [] := by
  intro blank
  cases h with
  | rule isName =>
    obtain ⟨c, tail, seen, -⟩ := exists_nameStart_of_takes isName
    cases blank.symm.trans seen

theorem SpellsRule.of_skipBlank_eq {s' : List Char} {rule : Rule} (same : skipBlank s' = skipBlank s)
    (h : SpellsRule s rule rest) : SpellsRule s' rule rest := by
  cases h with
  | rule isName defines elements builds semicolon =>
    exact .rule (readName_takes_of_skipBlank_eq same isName) defines elements builds semicolon

/-! ### Rules to the end -/

/-- After the first rule, the others are read. -/
theorem readRules_of_rule {after : List Char} {rule : Rule} (first : SpellsRule s rule after) :
    readRules s = (readRules after).map (rule :: ·) := by
  have some : ¬ (skipBlank s).isEmpty := fun blank => first.not_blank (List.isEmpty_iff.mp blank)
  obtain ⟨_, read⟩ := readRule_takes_iff.mpr first
  rw [readRules, if_neg some, read]
  dsimp only
  cases readRules after <;> rfl

theorem readRules_of_blank (blank : skipBlank s = []) : readRules s = .ok [] := by
  rw [readRules, blank]
  rfl

theorem readRules_eq_ok_iff {rules : List Rule} : readRules s = .ok rules ↔ SpellsRules s rules := by
  constructor
  · intro h
    induction rules generalizing s with
    | nil =>
      rw [readRules] at h
      split at h
      · rename_i blank
        exact .done (List.isEmpty_iff.mp blank)
      · split at h
        · cases h
        · split at h <;> cases h
    | cons rule rules ih =>
      rw [readRules] at h
      split at h
      · cases h
      · split at h
        · cases h
        · rename_i first after le read
          split at h
          · cases h
          · rename_i others read'
            cases h
            exact .more (readRule_takes_iff.mp ⟨le, read⟩) (ih read')
  · intro h
    induction h with
    | done blank => exact readRules_of_blank blank
    | more first others ih =>
      rw [readRules_of_rule first, ih]
      rfl

/-! ### Refused rules -/

/-- The text does not spell a rule, for some part of it is refused. -/
inductive RefusesRule : List Char → Problem → Prop
  | name {s : List Char} {problem : Problem} (noName : readName s = .error problem) :
    RefusesRule s problem
  | defines {s afterName : List Char} {problem : Problem} {name : String}
    (isName : (readName s).Takes name afterName) (noDefines : readDefines afterName = .error problem) :
    RefusesRule s problem
  | elements {s afterName afterDefines : List Char} {problem : Problem} {name : String}
    (isName : (readName s).Takes name afterName)
    (defines : skipBlank afterName = ':' :: ':' :: '=' :: afterDefines)
    (noElement : readElements afterDefines = .error problem) : RefusesRule s problem
  | template {s afterName afterDefines afterElements : List Char} {problem : Problem} {name : String}
    {rhs : List Element} (isName : (readName s).Takes name afterName)
    (defines : skipBlank afterName = ':' :: ':' :: '=' :: afterDefines)
    (elements : SpellsElements afterDefines rhs afterElements)
    (noTemplate : readExpression afterElements = .error problem) : RefusesRule s problem
  | fixed {s afterName afterDefines afterElements after : List Char} {name : String}
    {rhs : List Element} {value : Value} (isName : (readName s).Takes name afterName)
    (defines : skipBlank afterName = ':' :: ':' :: '=' :: afterDefines)
    (elements : SpellsElements afterDefines rhs afterElements)
    (fixed : SpellsExpression afterElements (.fixed value) after) :
    RefusesRule s ⟨.fixedTemplate value, skipBlank afterElements⟩
  | semicolon {s afterName afterDefines afterElements afterTemplate : List Char} {problem : Problem}
    {name : String} {rhs : List Element} {template : Template}
    (isName : (readName s).Takes name afterName)
    (defines : skipBlank afterName = ':' :: ':' :: '=' :: afterDefines)
    (elements : SpellsElements afterDefines rhs afterElements)
    (builds : SpellsExpression afterElements (.computed template) afterTemplate)
    (noSemicolon : readMark ';' afterTemplate = .error problem) : RefusesRule s problem

theorem readRule_error_iff {problem : Problem} :
    readRule s = .error problem ↔ RefusesRule s problem := by
  constructor
  · intro h
    rcases bind_eq_error_iff.mp h with noName | ⟨⟨name, afterName, le₁⟩, isName, h⟩
    · exact .name noName
    have isName : (readName s).Takes name afterName := ⟨le₁, isName⟩
    rcases bind_eq_error_iff.mp h with noDefines | ⟨⟨_, afterDefines, le₂⟩, defines, h⟩
    · exact .defines isName noDefines
    have defines := readDefines_takes_iff.mp ⟨le₂, defines⟩
    rcases bind_eq_error_iff.mp h with noElement | ⟨⟨rhs, afterElements, le₃⟩, elements, h⟩
    · exact .elements isName defines noElement
    have elements := SpellsElements.of_takes ⟨le₃, elements⟩
    rcases bind_eq_error_iff.mp h with noTemplate | ⟨⟨e, afterTemplate, le₄⟩, builds, h⟩
    · exact .template isName defines elements noTemplate
    have builds := readExpression_takes_iff.mp ⟨le₄, builds⟩
    cases e with
    | fixed value =>
      cases h
      exact .fixed isName defines elements builds
    | computed template =>
      rcases bind_eq_error_iff.mp h with noSemicolon | ⟨_, _, h⟩
      · exact .semicolon isName defines elements builds noSemicolon
      · cases h
  · intro h
    cases h with
    | name noName => exact bind_eq_error_iff.mpr (.inl noName)
    | defines isName noDefines =>
      exact bind_error_of_takes isName fun _ => bind_eq_error_iff.mpr (.inl noDefines)
    | elements isName defines noElement =>
      refine bind_error_of_takes isName fun _ => ?_
      refine bind_error_of_takes (readDefines_takes_iff.mpr defines) fun _ => ?_
      exact bind_eq_error_iff.mpr (.inl noElement)
    | template isName defines elements noTemplate =>
      refine bind_error_of_takes isName fun _ => ?_
      refine bind_error_of_takes (readDefines_takes_iff.mpr defines) fun _ => ?_
      refine bind_error_of_takes elements.takes fun _ => ?_
      exact bind_eq_error_iff.mpr (.inl noTemplate)
    | fixed isName defines elements fixed =>
      refine bind_error_of_takes isName fun _ => ?_
      refine bind_error_of_takes (readDefines_takes_iff.mpr defines) fun _ => ?_
      refine bind_error_of_takes elements.takes fun _ => ?_
      exact bind_error_of_takes fixed.takes fun _ => rfl
    | semicolon isName defines elements builds noSemicolon =>
      refine bind_error_of_takes isName fun _ => ?_
      refine bind_error_of_takes (readDefines_takes_iff.mpr defines) fun _ => ?_
      refine bind_error_of_takes elements.takes fun _ => ?_
      refine bind_error_of_takes builds.takes fun _ => ?_
      exact bind_eq_error_iff.mpr (.inl noSemicolon)

theorem RefusesRule.of_skipBlank_eq {s' : List Char} {problem : Problem}
    (same : skipBlank s' = skipBlank s) (h : RefusesRule s problem) : RefusesRule s' problem := by
  cases h with
  | name noName => exact .name (readName_error_of_skipBlank_eq same noName)
  | defines isName noDefines => exact .defines (readName_takes_of_skipBlank_eq same isName) noDefines
  | elements isName defines noElement =>
    exact .elements (readName_takes_of_skipBlank_eq same isName) defines noElement
  | template isName defines elements noTemplate =>
    exact .template (readName_takes_of_skipBlank_eq same isName) defines elements noTemplate
  | fixed isName defines elements fixed =>
    exact .fixed (readName_takes_of_skipBlank_eq same isName) defines elements fixed
  | semicolon isName defines elements builds noSemicolon =>
    exact .semicolon (readName_takes_of_skipBlank_eq same isName) defines elements builds noSemicolon

/-- Where the first rule is refused, so is the grammar. -/
theorem readRules_of_refused {problem : Problem} (some : skipBlank s ≠ [])
    (refused : RefusesRule s problem) : readRules s = .error problem := by
  rw [readRules, if_neg (by rwa [List.isEmpty_iff]), readRule_error_iff.mpr refused]

/-- The three ways in which reading rules goes on. -/
theorem readRules_cases (s : List Char) : skipBlank s = [] ∨
    (∃ rule after, SpellsRule s rule after) ∨
      skipBlank s ≠ [] ∧ ∃ problem, RefusesRule s problem := by
  by_cases blank : skipBlank s = []
  · exact .inl blank
  · cases read : readRule s with
    | error problem => exact .inr (.inr ⟨blank, problem, readRule_error_iff.mp read⟩)
    | ok taken =>
      exact .inr (.inl ⟨taken.value, taken.rest, readRule_takes_iff.mp ⟨taken.shorter, read⟩⟩)

/-- The blanks in front of a grammar do not matter. -/
theorem readRules_of_skipBlank_eq {s' : List Char} (same : skipBlank s' = skipBlank s) :
    readRules s' = readRules s := by
  rcases readRules_cases s with blank | ⟨rule, after, first⟩ | ⟨some, problem, refused⟩
  · rw [readRules_of_blank blank, readRules_of_blank (same.trans blank)]
  · rw [readRules_of_rule first, readRules_of_rule (first.of_skipBlank_eq same)]
  · rw [readRules_of_refused some refused,
      readRules_of_refused (same ▸ some) (refused.of_skipBlank_eq same)]

theorem SpellsRules.of_skipBlank_eq {s' : List Char} {rules : List Rule}
    (same : skipBlank s' = skipBlank s) (h : SpellsRules s rules) : SpellsRules s' rules := by
  rw [← readRules_eq_ok_iff, readRules_of_skipBlank_eq same, readRules_eq_ok_iff]
  exact h

end Notation
end ReversibleGrammar
