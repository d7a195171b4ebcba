/-
# Grammars read off texts

A text gives a grammar when it spells at least one rule. It is refused where a reader
meets a problem, or for holding no rules. All rules that are read are expressible: what
the notation accepts can be written in it again.

Key theorems: `Grammar.ofText_eq_ok_iff`, `Grammar.expressible_of_ofText`.
-/
import ReversibleGrammar.Grammar.Loading
import ReversibleGrammar.Proofs.Notation.Expressible

namespace ReversibleGrammar
namespace Grammar

open Notation

variable {text : String} {g : Grammar}

theorem ofText_of_rules {rule : Rule} {rules : List Rule}
    (read : readRules text.toList = .ok (rule :: rules)) : ofText text = .ok ⟨rule :: rules⟩ := by
  rw [ofText, readGrammar, read]
  rfl

theorem ofText_of_noRules (read : readRules text.toList = .ok []) : ofText text =
    .error (.badNotation (Problem.line text.toList ⟨.noRules, []⟩) ⟨.noRules, []⟩) := by
  rw [ofText, readGrammar, read]
  rfl

theorem ofText_of_problem {problem : Problem} (read : readRules text.toList = .error problem) :
    ofText text = .error (.badNotation (problem.line text.toList) problem) := by
  rw [ofText, readGrammar, read]
  rfl

theorem ofText_eq_ok_iff : ofText text = .ok g ↔ SpellsRules text.toList g.rules ∧ g.rules ≠ [] := by
  rw [← readRules_eq_ok_iff]
  cases read : readRules text.toList with
  | error problem =>
    rw [ofText_of_problem read]
    exact iff_of_false nofun fun h => nomatch h.1
  | ok rules =>
    cases rules with
    | nil =>
      rw [ofText_of_noRules read]
      refine iff_of_false nofun ?_
      rintro ⟨same, notEmpty⟩
      exact notEmpty (Except.ok.inj same).symm
    | cons rule rules =>
      rw [ofText_of_rules read]
      constructor
      · rintro ⟨⟩
        exact ⟨rfl, List.cons_ne_nil rule rules⟩
      · rintro ⟨same, -⟩
        rw [Except.ok.inj same]

/-- All that the notation accepts is expressible in it. -/
theorem expressible_of_ofText (h : ofText text = .ok g) : g.Expressible := by
  obtain ⟨spelled, notEmpty⟩ := ofText_eq_ok_iff.mp h
  exact ⟨notEmpty, spelled.expressible⟩

variable {read : String → Except ReadFailure (List UInt8)} {path : String}

end Grammar
end ReversibleGrammar
