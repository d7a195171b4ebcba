/-
# Texts are read or refused

Reading comes to an end on every text, for each lexeme takes some of it away. What comes of
it is a grammar or a refusal that names a line. The place of the refusal is an end of the
text, so the line can be counted; and all readers look where the blanks end, so it is where
something is seen, or the end of the text, and an excerpt tells which.

Key theorems: `Grammar.exists_of_ofText_eq_error`, `Grammar.ofText_reads_or_refuses`.
-/
import Mathlib
import ReversibleGrammar.Proofs.Grammar.Loading
import ReversibleGrammar.Proofs.Notation.Places
import ReversibleGrammar.Proofs.Notation.Wording

namespace ReversibleGrammar

open Notation

namespace Notation

variable {s rest : List Char}

/-- A literal stands between quotes, and its token is read off what stands there. -/
theorem readLiteral_raw {token : String} (h : (readLiteral s).Takes token rest) :
    ∃ raw, skipBlank s = '\'' :: raw ++ '\'' :: rest ∧ unescape raw = token.toList := by
  obtain ⟨inside, seen, -, isQuoted⟩ := readLiteral_takes_iff.mp h
  obtain ⟨raw, rfl, value⟩ := isQuoted.exists_raw
  exact ⟨raw, seen, value⟩

/-- A string stands between quotes, and its content is read off what stands there. -/
theorem readString_raw {content : String} (h : (readString s).Takes content rest) :
    ∃ raw, skipBlank s = '"' :: raw ++ '"' :: rest ∧ unescape raw = content.toList := by
  obtain ⟨inside, seen, isQuoted⟩ := readString_takes_iff.mp h
  obtain ⟨raw, rfl, value⟩ := isQuoted.exists_raw
  exact ⟨raw, seen, value⟩

end Notation

namespace Grammar

variable {text : String}

/-- A text is refused for its notation, at an end of it with no blanks in front. -/
theorem exists_of_ofText_eq_error {error : LoadError} (h : ofText text = .error error) :
    ∃ problem, error = .badNotation (problem.line text.toList) problem ∧
      problem.rest <:+ text.toList ∧ skipBlank problem.rest = problem.rest := by
  cases read : readRules text.toList with
  | error problem =>
    have within : problem.Within text.toList := readRules_error_within read
    rw [ofText_of_problem read] at h
    exact ⟨problem, (Except.error.inj h).symm, within.place, within.settled⟩
  | ok rules =>
    cases rules with
    | nil =>
      rw [ofText_of_noRules read] at h
      exact ⟨_, (Except.error.inj h).symm, List.nil_suffix, rfl⟩
    | cons rule rules =>
      rw [ofText_of_rules read] at h
      cases h

/-- **Every text is read or refused in its place.** What follows the place of a refusal is an
end of the text, empty or with a character in front that is no blank and starts no comment.
The line is one more than the newlines before it, and where the wording tells what was
expected, it tells the end of the text just where nothing follows. The quotes and brackets
that are taken off lexemes are there. -/
theorem ofText_reads_or_refuses (text : String) :
    ((∃ g, ofText text = .ok g) ∨
      ∃ before problem, ofText text = .error (.badNotation (1 + before.count '\n') problem) ∧
        text.toList = before ++ problem.rest ∧
        (∀ c tail, problem.rest = c :: tail →
          Unicode.isBlank c = false ∧ ¬ ['/', '/'] <+: c :: tail) ∧
        (∀ what, problem.cause = .expected what → problem.message =
          "expected " ++ what.display ++ " at " ++ lineExcerpt problem.rest) ∧
        ("expected ".toList <+: problem.message.toList →
          (" at end of input".toList <:+ problem.message.toList ↔ problem.rest = []))) ∧
    (∀ s token rest, (readLiteral s).Takes token rest →
      ∃ raw, skipBlank s = '\'' :: raw ++ '\'' :: rest ∧ unescape raw = token.toList) ∧
    (∀ s content rest, (readString s).Takes content rest →
      ∃ raw, skipBlank s = '"' :: raw ++ '"' :: rest ∧ unescape raw = content.toList) ∧
    ∀ s name place, readClass s = .error ⟨.unknownClass name, place⟩ →
      ∃ rest, place = '<' :: name.toList ++ '>' :: rest := by
  refine ⟨?_, fun _ _ _ => readLiteral_raw, fun _ _ _ => readString_raw,
    fun _ _ _ => exists_of_unknownClass⟩
  cases read : ofText text with
  | ok g => exact .inl ⟨g, rfl⟩
  | error error =>
    obtain ⟨problem, rfl, ⟨before, place⟩, settled⟩ := exists_of_ofText_eq_error read
    refine .inr ⟨before, problem, ?_, place.symm, ?_, ?_, ?_⟩
    · rw [← place, Problem.line_eq, Nat.add_comm]
    · intro c tail seen
      rw [seen] at settled
      exact visible_of_skipBlank_eq_self settled
    · intro what isExpected
      rw [Problem.message, isExpected, lineExcerpt_eq_excerpt settled]
    · intro starts
      obtain ⟨what, isExpected⟩ := Problem.expected_of_prefix starts
      exact Problem.suffix_message_iff isExpected

/-- The blank lines behind the template count, for the semicolon is looked for behind them. -/
example : ofText "a ::= 'x' => $0\n\n" = .error (.badNotation 3 ⟨.expected (.mark ";"), []⟩) := by
  cbv

end Grammar
end ReversibleGrammar
