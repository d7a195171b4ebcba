/-
# Joining the texts of grammars

Two texts with a newline between them give the sum of their grammars. If the second is
refused, so are both together, for the same reason, on a line that is further down by the
lines of the first. Only where the second holds no rules at all is this no reason to
refuse both, and they give the grammar of the first.

Key theorems: `Grammar.ofText_join`.
-/
import Mathlib
import ReversibleGrammar.Proofs.Grammar.Loading
import ReversibleGrammar.Proofs.Grammar.Order
import ReversibleGrammar.Proofs.Notation.Joining
import ReversibleGrammar.Proofs.Notation.Places
import ReversibleGrammar.Proofs.Notation.Wording

namespace ReversibleGrammar
namespace Grammar

open Notation

theorem toList_join_newline (s₁ s₂ : String) :
    (s₁ ++ "\n" ++ s₂).toList = s₁.toList ++ '\n' :: s₂.toList := by
  rw [String.toList_append, String.toList_append, List.append_assoc]
  rfl

/-- Behind a newline, a problem is on a line that is further down by those of the text in
front and by the newline. -/
theorem line_join (s₁ : String) {s₂ : String} {problem : Problem} (place : problem.rest <:+ s₂.toList) :
    problem.line (s₁ ++ "\n" ++ s₂).toList =
      problem.line s₂.toList + s₁.toList.count '\n' + 1 := by
  have layout : (s₁ ++ "\n" ++ s₂).toList = (s₁.toList ++ ['\n']) ++ s₂.toList := by
    rw [toList_join_newline, List.append_assoc, List.singleton_append]
  have newline : ['\n'].count '\n' = 1 := by decide
  rw [layout, Problem.line_append place, List.count_append, newline]
  omega

/-- **Joining texts.** Behind a text that gives a grammar, a newline and a second text give
the sum of both grammars, which is also what adding the second symbol by symbol makes. If
the second text is refused, both together are refused for the same reason, further down;
but a second text without rules is no reason. -/
theorem ofText_join {s₁ : String} {g₁ : Grammar} (h : ofText s₁ = .ok g₁) (s₂ : String) :
    (∀ g₂, ofText s₂ = .ok g₂ →
      ofText (s₁ ++ "\n" ++ s₂) = .ok (g₁ + g₂) ∧ Same (g₁ + g₂) (g₂.ordered.foldl push g₁)) ∧
    ∀ error, ofText s₂ = .error error → ∃ line problem, error = .badNotation line problem ∧
      ofText (s₁ ++ "\n" ++ s₂) =
        if problem.message = "empty ruleset" then .ok g₁
        else .error (.badNotation (line + s₁.toList.count '\n' + 1) problem) := by
  obtain ⟨first, notEmpty⟩ := ofText_eq_ok_iff.mp h
  have joined := readRules_join s₂.toList first
  rw [← toList_join_newline] at joined
  constructor
  · intro g₂ h₂
    obtain ⟨second, notEmpty₂⟩ := ofText_eq_ok_iff.mp h₂
    have sum : SpellsRules (s₁ ++ "\n" ++ s₂).toList (g₁ + g₂).rules := by
      rw [← readRules_eq_ok_iff, joined, readRules_eq_ok_iff.mpr second]
      rfl
    refine ⟨ofText_eq_ok_iff.mpr ⟨sum, ?_⟩, same_add g₁ g₂⟩
    exact List.append_ne_nil_of_left_ne_nil notEmpty g₂.rules
  · intro error h₂
    cases read : readRules s₂.toList with
    | error problem =>
      -- No reader says that there are no rules; that is only said of a text read to its end.
      have within : problem.Within s₂.toList := readRules_error_within read
      have other : problem.message ≠ "empty ruleset" := fun same =>
        within.met (Problem.message_eq_empty_iff.mp same)
      rw [read] at joined
      rw [ofText_of_problem read] at h₂
      refine ⟨_, problem, (Except.error.inj h₂).symm, ?_⟩
      rw [ofText_of_problem joined, if_neg other, line_join s₁ within.place]
    | ok rules =>
      cases rules with
      | nil =>
        rw [read] at joined
        rw [ofText_of_noRules read] at h₂
        refine ⟨_, _, (Except.error.inj h₂).symm, ?_⟩
        have alone : SpellsRules (s₁ ++ "\n" ++ s₂).toList g₁.rules := by
          rw [← readRules_eq_ok_iff, joined]
          exact congrArg Except.ok (List.append_nil g₁.rules)
        rw [if_pos (Problem.message_eq_empty_iff.mpr rfl)]
        exact ofText_eq_ok_iff.mpr ⟨alone, notEmpty⟩
      | cons rule rules =>
        rw [ofText_of_rules read] at h₂
        cases h₂

/-- A text that ends in a comment. -/
def annotated : String := "a ::= 'x' => $0; // note"

/-- The grammar of that text. -/
def annotatedGrammar : Grammar := ⟨[⟨"a", [.terminal (.literal "x")], .slot 0 none⟩]⟩

/-- Behind the comment, a second text is accepted, refused on its second line, or empty. -/
theorem annotated_join :
    ofText (annotated ++ "\n" ++ "a ::= => empty;") = .ok (annotatedGrammar + ⟨[⟨"a", [], .empty⟩]⟩) ∧
    ofText (annotated ++ "\n" ++ "\na ;") =
      .error (.badNotation 3 ⟨.expected (.mark "::="), [';']⟩) ∧
    ofText (annotated ++ "\n" ++ "// none") = .ok annotatedGrammar := by
  have first : ofText annotated = .ok annotatedGrammar := by cbv
  have accepted : ofText "a ::= => empty;" = .ok ⟨[⟨"a", [], .empty⟩]⟩ := by cbv
  have refused : ofText "\na ;" = .error (.badNotation 2 ⟨.expected (.mark "::="), [';']⟩) := by cbv
  have none : ofText "// none" = .error (.badNotation 1 ⟨.noRules, []⟩) := by cbv
  refine ⟨((ofText_join first _).1 _ accepted).1, ?_, ?_⟩
  · obtain ⟨line, problem, same, joined⟩ := (ofText_join first _).2 _ refused
    cases same
    rw [joined, if_neg (by decide)]
    rfl
  · obtain ⟨line, problem, same, joined⟩ := (ofText_join first _).2 _ none
    cases same
    rw [joined, if_pos (by decide)]

end Grammar
end ReversibleGrammar
