/-
# The place of a problem

The rest of the text that a problem names is an end of the text that was read, on every
level: the place of a problem lies in the text, and no blank stands there. So the line of a
problem is a line of the text, and with more text in front it moves by the newlines of that
text.

Key theorems: `Notation.readExpression_error_within`, `Notation.readRules_error_within`,
`Notation.Problem.line_eq`, `Notation.Problem.line_append`.
-/
import ReversibleGrammar.Proofs.Notation.Rules

namespace ReversibleGrammar
namespace Notation

variable {s : List Char} {problem : Problem}

/-! ### Expressions -/

mutual

theorem readExpression_error_within {s : List Char} {problem : Problem}
    (h : readExpression s = .error problem) : problem.Within s := by
  unfold readExpression at h
  split at h
  · exact ((readSlot_inside s).map _).of_error h
  · exact ((readString_inside s).map _).of_error h
  · rename_i inside seen
    have shorter : inside.length < s.length := length_le_of_skipBlank seen
    have behind : inside <:+ s := suffix_of_skipBlank seen
    dsimp only at h
    split at h
    · rename_i read
      cases h
      exact (readItems_error_within read).of_suffix behind
    · split at h <;> cases h
      exact .of_skipBlank seen nofun
    · rename_i heads after le read
      have behind' : after <:+ inside :=
        (List.suffix_cons _ _).trans (SpellsItems.of_takes ⟨le, read⟩).mark_suffix
      split at h
      · rename_i read'
        cases h
        exact ((readItems_error_within read').of_suffix behind').of_suffix behind
      · rename_i tails final le' read'
        cases h
        have place : ';' :: final <:+ s :=
          ((SpellsItems.of_takes ⟨le', read'⟩).mark_suffix.trans behind').trans behind
        exact ⟨place, nofun, skipBlank_of_visible (by decide) (by decide)⟩
      · split at h <;> cases h
        exact .of_skipBlank seen nofun
  · split at h
    · rename_i read
      cases h
      exact (readName_inside s).of_error read
    · rename_i name after le read
      have behind : after <:+ s := (readName_inside s).of_takes ⟨le, read⟩
      split at h
      · cases h
      · split at h
        · cases h
        · split at h
          · rename_i mark
            cases h
            exact ((readMark_inside _ after).of_error mark).of_suffix behind
          · rename_i inside le' mark
            have behind' : inside <:+ after := (readMark_inside _ after).of_takes ⟨le', mark⟩
            split at h
            · rename_i read'
              cases h
              exact ((readFields_error_within read').of_suffix behind').of_suffix behind
            · cases h
termination_by (s.length, 0)

theorem readFields_error_within {tag : String} {fields : List Field} {s : List Char}
    {problem : Problem} (h : readFields tag fields s = .error problem) : problem.Within s := by
  unfold readFields at h
  split at h
  · cases h
  · split at h
    · rename_i read
      cases h
      exact (readName_inside s).of_error read
    · rename_i name afterName le read
      have behind : afterName <:+ s := (readName_inside s).of_takes ⟨le, read⟩
      split at h
      · rename_i mark
        cases h
        exact ((readMark_inside _ afterName).of_error mark).of_suffix behind
      · rename_i afterColon le' mark
        have behind' : afterColon <:+ s :=
          ((readMark_inside _ afterName).of_takes ⟨le', mark⟩).trans behind
        split at h
        · cases h
          exact .of_skipBlank rfl nofun
        · split at h
          · rename_i read'
            cases h
            exact (readExpression_error_within read').of_suffix behind'
          · rename_i e after le'' read'
            have value : SpellsExpression afterColon e after := .of_takes ⟨le'', read'⟩
            have behind'' : after <:+ s := value.suffix.trans behind'
            dsimp only at h
            split at h
            · rename_i next comma
              have shorter : next.length < after.length := length_le_of_skipBlank comma
              split at h
              · rename_i read''
                cases h
                exact ((readFields_error_within read'').of_suffix (suffix_of_skipBlank comma)).of_suffix behind''
              · cases h
            · cases h
            · cases h
              exact (Problem.Within.of_skipBlank rfl (by simp)).of_suffix behind''
termination_by (s.length, 0)

theorem readItems_error_within {s : List Char} {problem : Problem}
    (h : readItems s = .error problem) : problem.Within s := by
  unfold readItems at h
  split at h
  · cases h
  · cases h
  · split at h
    · rename_i read
      cases h
      exact readExpression_error_within read
    · rename_i item after le read
      have spelled : SpellsExpression s item after := .of_takes ⟨le, read⟩
      dsimp only at h
      split at h
      · rename_i next comma
        have shorter : next.length < after.length := length_le_of_skipBlank comma
        split at h
        · rename_i read'
          cases h
          exact ((readItems_error_within read').of_suffix (suffix_of_skipBlank comma)).of_suffix spelled.suffix
        · cases h
      · cases h
      · cases h
      · cases h
        exact (Problem.Within.of_skipBlank rfl (by simp)).of_suffix spelled.suffix
termination_by (s.length, 1)

end

/-! ### Rules -/

theorem readElements_error_within {s : List Char} {problem : Problem}
    (h : readElements s = .error problem) : problem.Within s := by
  unfold readElements at h
  split at h
  · cases h
  · split at h
    · rename_i read
      cases h
      exact (readElement_inside s).of_error read
    · rename_i element after le read
      split at h
      · rename_i read'
        cases h
        exact (readElements_error_within read').of_suffix ((readElement_inside s).of_takes ⟨le, read⟩)
      · cases h
termination_by s.length

theorem RefusesRule.within (h : RefusesRule s problem) : problem.Within s := by
  have afterName : ∀ {name : String} {rest : List Char}, (readName s).Takes name rest → rest <:+ s :=
    fun isName => (readName_inside s).of_takes isName
  have afterDefines : ∀ {rest after : List Char}, skipBlank rest = ':' :: ':' :: '=' :: after →
      after <:+ rest := by
    intro rest after defines
    exact ((List.suffix_cons _ _).trans (List.suffix_cons _ _)).trans (suffix_of_skipBlank defines)
  cases h with
  | name noName => exact (readName_inside s).of_error noName
  | defines isName noDefines => exact ((readDefines_inside _).of_error noDefines).of_suffix (afterName isName)
  | elements isName defines noElement =>
    exact ((readElements_error_within noElement).of_suffix (afterDefines defines)).of_suffix (afterName isName)
  | template isName defines elements noTemplate =>
    have behind := (readExpression_error_within noTemplate).of_suffix elements.suffix
    exact (behind.of_suffix (afterDefines defines)).of_suffix (afterName isName)
  | fixed isName defines elements fixed =>
    apply Problem.Within.of_suffix _ (afterName isName)
    apply Problem.Within.of_suffix _ (afterDefines defines)
    apply Problem.Within.of_suffix _ elements.suffix
    exact .of_skipBlank rfl nofun
  | semicolon isName defines elements builds noSemicolon =>
    have behind := ((readMark_inside _ _).of_error noSemicolon).of_suffix (builds.suffix.trans elements.suffix)
    exact (behind.of_suffix (afterDefines defines)).of_suffix (afterName isName)

theorem readRules_error_within {s : List Char} {problem : Problem}
    (h : readRules s = .error problem) : problem.Within s := by
  rcases readRules_cases s with blank | ⟨rule, after, first⟩ | ⟨some, problem', refused⟩
  · rw [readRules_of_blank blank] at h
    cases h
  · have shorter : after.length < s.length := (readRule_takes_iff.mpr first).shorter
    rw [readRules_of_rule first] at h
    have others : readRules after = .error problem := map_eq_error_iff.mp h
    exact (readRules_error_within others).of_suffix first.suffix
  · rw [readRules_of_refused some refused] at h
    cases h
    exact refused.within
termination_by s.length

/-! ### Lines -/

/-- The line of a problem is counted by the newlines before it. -/
theorem Problem.line_eq (before : List Char) (problem : Problem) :
    problem.line (before ++ problem.rest) = before.count '\n' + 1 := by
  have taken : (before ++ problem.rest).length - problem.rest.length = before.length := by
    rw [List.length_append]
    omega
  rw [Problem.line, taken, List.take_left]

/-- With more text in front, the line of a problem moves by the newlines of that text. -/
theorem Problem.line_append (place : problem.rest <:+ s) (front : List Char) :
    problem.line (front ++ s) = problem.line s + front.count '\n' := by
  obtain ⟨before, rfl⟩ := place
  rw [← List.append_assoc, Problem.line_eq, Problem.line_eq, List.count_append]
  omega

end Notation
end ReversibleGrammar
