/-
# What the wording of a problem tells

The wordings of problems start with different letters, except where a list or a whole
template is fixed, so most causes can be told by them. What was expected and not found comes
with an excerpt of the line it was expected on. An excerpt of an empty line would pass for the
end of the text, so it matters that no problem stands at a blank: there the line is empty just
where the text is.

Key definitions: `Notation.Cause.opening`, `Notation.firstLine`, `Notation.lineExcerpt`.
Key theorems: `Notation.Problem.message_eq_empty_iff`, `Notation.Problem.expected_of_prefix`,
`Notation.lineExcerpt_eq_excerpt`, `Notation.Problem.suffix_message_iff`.
-/
import ReversibleGrammar.Proofs.Notation.Blank

namespace ReversibleGrammar
namespace Notation

variable {problem : Problem} {what : Expectation} {rest : List Char} {c : Char}

/-! ### How wordings start -/

/-- The first two letters of the wording of a cause. -/
def Cause.opening : Cause → List Char
  | expected _ => ['e', 'x']
  | unknownClass _ => ['u', 'n']
  | badIndex _ => ['b', 'a']
  | repeatedField _ _ => ['f', 'i']
  | mixedList => ['a', ' ']
  | fixedTemplate _ => ['a', ' ']
  | noRules => ['e', 'm']

theorem Cause.eq_noRules_of_opening : ∀ {cause : Cause}, cause.opening = ['e', 'm'] → cause = noRules
  | noRules, _ => rfl

theorem Cause.exists_eq_expected_of_opening : ∀ {cause : Cause}, cause.opening = ['e', 'x'] →
    ∃ what, cause = expected what
  | expected what, _ => ⟨what, rfl⟩

theorem take_append_toList {front : String} (long : 2 ≤ front.toList.length) (more : String) :
    (front ++ more).toList.take 2 = front.toList.take 2 := by
  rw [String.toList_append, List.take_append_of_le_length long]

theorem Problem.take_message (problem : Problem) :
    problem.message.toList.take 2 = problem.cause.opening := by
  obtain ⟨cause, rest⟩ := problem
  cases cause with
  | noRules =>
    simp only [message]
    decide
  | mixedList =>
    simp only [message]
    decide
  | expected what =>
    simp only [message, String.append_assoc]
    exact take_append_toList (by decide) _
  | unknownClass name =>
    simp only [message, String.append_assoc]
    exact take_append_toList (by decide) _
  | badIndex slot =>
    simp only [message, String.append_assoc]
    exact take_append_toList (by decide) _
  | repeatedField name tag =>
    simp only [message, String.append_assoc]
    exact take_append_toList (by decide) _
  | fixedTemplate value => exact take_append_toList (by decide) _

/-- No other problem has the wording of a text without rules. -/
theorem Problem.message_eq_empty_iff : problem.message = "empty ruleset" ↔ problem.cause = .noRules := by
  constructor
  · intro same
    have opening := problem.take_message
    rw [same] at opening
    exact Cause.eq_noRules_of_opening opening.symm
  · intro isNone
    rw [message, isNone]

/-- A wording that starts with `expected` tells what was expected. -/
theorem Problem.expected_of_prefix (h : "expected ".toList <+: problem.message.toList) :
    ∃ what, problem.cause = .expected what := by
  have opening := problem.take_message
  obtain ⟨more, same⟩ := h
  rw [← same, List.take_append_of_le_length (by decide)] at opening
  exact Cause.exists_eq_expected_of_opening opening.symm

/-! ### Excerpts -/

/-- The first line of a text. It ends at a newline, and a carriage return before the newline
belongs to the end. -/
def firstLine : List Char → List Char
  | [] => []
  | c :: rest => if c = '\n' ∨ c = '\r' ∧ rest.head? = some '\n' then [] else c :: firstLine rest

/-- An excerpt of the first line, which takes an empty line for the end of the text. -/
def lineExcerpt (rest : List Char) : String :=
  if (firstLine rest).isEmpty then "end of input"
  else "`" ++ String.ofList (Problem.trimEnd (firstLine rest)) ++ "`"

theorem takeWhile_eq_firstLine (s : List Char) : s.takeWhile (· != '\n') = firstLine s ∨
    s.takeWhile (· != '\n') = firstLine s ++ ['\r'] := by
  induction s with
  | nil => exact .inl rfl
  | cons c rest ih =>
    by_cases newline : c = '\n'
    · rw [firstLine, if_pos (.inl newline), newline]
      exact .inl rfl
    · have inside : (c :: rest).takeWhile (· != '\n') = c :: rest.takeWhile (· != '\n') :=
        List.takeWhile_cons_of_pos (bne_iff_ne.mpr newline)
      rw [firstLine, inside]
      by_cases carriage : c = '\r' ∧ rest.head? = some '\n'
      · obtain ⟨tail, rfl⟩ := List.head?_eq_some_iff.mp carriage.2
        rw [if_pos (.inr carriage), carriage.1]
        exact .inr rfl
      · rw [if_neg (not_or.mpr ⟨newline, carriage⟩)]
        exact ih.imp (congrArg (c :: ·)) (congrArg (c :: ·))

/-- A carriage return at the end is cut off with the other blanks. -/
theorem trimEnd_firstLine (s : List Char) :
    Problem.trimEnd (s.takeWhile (· != '\n')) = Problem.trimEnd (firstLine s) := by
  rcases takeWhile_eq_firstLine s with same | same
  · rw [same]
  · have blank : Unicode.isBlank '\r' = true := by decide
    rw [same, Problem.trimEnd, Problem.trimEnd, List.reverse_append, List.reverse_singleton,
      List.singleton_append, List.dropWhile_cons_of_pos blank]

/-- Where no blank stands, the line is empty just where the text is. -/
theorem lineExcerpt_eq_excerpt (settled : skipBlank rest = rest) :
    lineExcerpt rest = Problem.excerpt rest := by
  cases rest with
  | nil => rfl
  | cons c tail =>
    obtain ⟨visible, -⟩ := visible_of_skipBlank_eq_self settled
    have onLine : ¬ (c = '\n' ∨ c = '\r' ∧ tail.head? = some '\n') := by
      rintro (newline | ⟨carriage, -⟩)
      · rw [newline] at visible
        exact absurd visible (by decide)
      · rw [carriage] at visible
        exact absurd visible (by decide)
    have notEmpty : firstLine (c :: tail) = c :: firstLine tail := by rw [firstLine, if_neg onLine]
    rw [Problem.excerpt, trimEnd_firstLine, lineExcerpt, notEmpty]
    rfl

/-- The wording of what was expected ends in the end of the text just where the text does. -/
theorem Problem.suffix_message_iff (isExpected : problem.cause = .expected what) :
    " at end of input".toList <:+ problem.message.toList ↔ problem.rest = [] := by
  have wording : problem.message = "expected " ++ what.display ++ " at " ++ excerpt problem.rest := by
    rw [message, isExpected]
  constructor
  · intro ends
    by_contra more
    have quoted : excerpt problem.rest =
        "`" ++ String.ofList (trimEnd (problem.rest.takeWhile (· != '\n'))) ++ "`" := by
      rw [excerpt, if_neg (mt List.isEmpty_iff.mp more)]
    -- An excerpt of a line ends in a backtick.
    have last : problem.message.toList.getLast? = some '`' := by
      rw [wording, quoted, ← String.append_assoc, String.toList_append]
      exact List.getLast?_concat
    obtain ⟨front, same⟩ := ends
    rw [← same] at last
    have other : (front ++ " at end of input".toList).getLast? = some 't' := by
      have split : " at end of input".toList = " at end of inpu".toList ++ ['t'] := by decide
      rw [split, ← List.append_assoc]
      exact List.getLast?_concat
    rw [other] at last
    exact absurd last (by decide)
  · intro isNil
    have joined : problem.message = ("expected " ++ what.display) ++ " at end of input" := by
      rw [wording, isNil, String.append_assoc]
      rfl
    rw [joined, String.toList_append]
    exact List.suffix_append _ _

end Notation
end ReversibleGrammar
