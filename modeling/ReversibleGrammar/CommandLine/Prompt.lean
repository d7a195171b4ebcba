/-
# The prompt

At the prompt each line is parsed as a sentence of the start symbol. Its values
are printed, each followed by its paraphrases, the sentences that realize it,
and by an empty line; at the end comes the number of values and of the rules
tried. A fault ends the work on its line and is reported apart.

From turn to turn the prompt keeps one buffer, which a line is read into, and one
count of the rules tried, of which the summary of a line tells how far it went on.

Key definitions: `CommandLine.Prompt`, `CommandLine.Prompt.answer`,
`CommandLine.Prompt.turn`, `CommandLine.Prompt.converse`.
-/
import ReversibleGrammar.CommandLine.Options
import ReversibleGrammar.Parser.Derivations
import ReversibleGrammar.Parser.Realizations
import ReversibleGrammar.Sentence

namespace ReversibleGrammar
namespace CommandLine

/-- A parser that answers sentences of a start symbol. -/
structure Prompt where
  parser : Parser
  start : String
  paraphrase : Bool
  limit : Nat
  unique : Bool

/-- What is printed and what is reported for one line, and the number of rules tried
so far after it. -/
structure Reply where
  printed : String
  reported : String
  evaluated : Nat

/-- What the work on a sentence came to. -/
structure Report where
  printed : String
  /-- The fault that ended the work. -/
  fault : Option SearchFault
  /-- The number of values printed in full. -/
  count : Nat
  /-- The number of rules tried so far. -/
  evaluated : Nat

/-- What the prompt keeps from one turn to the next. -/
structure Memory where
  /-- What was read and not yet answered. -/
  buffer : String := ""
  /-- The number of rules tried so far. -/
  evaluated : Nat := 0

/-- What a turn at the prompt comes to. -/
inductive Turn where
  /-- There is nothing left to answer. -/
  | ended
  /-- What was read is not text. -/
  | notText
  /-- A line was answered. -/
  | answered (reply : Reply) (after : Memory)

/-- What a run of the program leaves behind. -/
structure Outcome where
  code : Nat
  stdout : String
  stderr : String

namespace Prompt

/-- The text before each line. -/
def text (p : Prompt) : String :=
  p.start ++ "> "

/-- The paraphrases of a value; the first number is that of the rules tried before. -/
def paraphrases (p : Prompt) (evaluated : Nat) (value : Value) : Report :=
  if p.paraphrase then
    let harvest := ((p.parser.realize p.start value).uniqueIf p.unique).harvest p.limit
    ⟨String.join (harvest.items.map fun ws => "  = " ++ Sentence.join ws ++ "\n"), harvest.fault,
      harvest.items.length, evaluated + harvest.trials⟩
  else ⟨"", none, 0, evaluated⟩

/-- Prints up to a number of values, each with its paraphrases; the second number is that
of the rules tried before. -/
def study (p : Prompt) : Nat → Nat → Feed (Except SearchFault Value) → Report
  | 0, evaluated, _ => ⟨"", none, 0, evaluated⟩
  | n + 1, evaluated, feed =>
    match feed.skipTrials evaluated with
    | (evaluated, .item (.ok value) rest) =>
      let own := p.paraphrases evaluated value
      let printed := value.display ++ "\n" ++ own.printed
      match own.fault with
      | some fault => ⟨printed, some fault, 0, own.evaluated⟩
      | none =>
        let later := p.study n own.evaluated (rest ())
        ⟨printed ++ "\n" ++ later.printed, later.fault, later.count + 1, later.evaluated⟩
    | (evaluated, .item (.error fault) _) => ⟨"", some fault, 0, evaluated⟩
    | (evaluated, _) => ⟨"", none, 0, evaluated⟩

/-- The last line about a sentence. -/
def summary (count trials : Nat) : String :=
  "Parsed " ++ count.repr ++ " value" ++ (if count = 1 then "" else "s") ++ " (" ++ trials.repr ++
    " rules evaluated)\n"

/-- What is printed and reported for a sentence; the number is that of the rules tried
before. -/
def answer (p : Prompt) (evaluated : Nat) (sentence : String) : Reply :=
  let words := Sentence.words p.parser.grammar.literals sentence
  let report := p.study p.limit evaluated ((p.parser.parse p.start words).uniqueIf p.unique)
  match report.fault with
  | some fault => ⟨report.printed, "error: " ++ fault.message ++ "\n", report.evaluated⟩
  | none =>
    ⟨report.printed ++ summary report.count (report.evaluated - evaluated), "", report.evaluated⟩

/-! ### Turns -/

/-- The text without the white space at either end. -/
def trim (line : String) : String :=
  String.ofList (Notation.Problem.trimEnd (line.toList.dropWhile Unicode.isBlank))

/-- A turn at the prompt. What is read goes to the end of the buffer; the buffer is
answered and emptied, unless it is empty already. -/
def turn (p : Prompt) (memory : Memory) (bytes : List UInt8) : Turn :=
  match Grammar.textOf? bytes with
  | none => .notText
  | some text =>
    let line := memory.buffer ++ text
    if line = "" then .ended
    else
      let reply := p.answer memory.evaluated (trim line)
      .answered reply ⟨"", reply.evaluated⟩

/-- A turn that answers had something to answer, and leaves the buffer empty. -/
theorem turn_eq_answered {p : Prompt} {memory after : Memory} {bytes : List UInt8} {reply : Reply}
    (h : p.turn memory bytes = .answered reply after) :
    after.buffer = "" ∧ (memory.buffer ≠ "" ∨ bytes ≠ []) := by
  unfold turn at h
  split at h
  · cases h
  · rename_i text isText
    dsimp only at h
    split at h
    · cases h
    · rename_i notEmpty
      cases h
      refine ⟨rfl, Decidable.not_and_iff_not_or_not.mp ?_⟩
      rintro ⟨noBuffer, noBytes⟩
      rw [noBytes, Grammar.textOf?_nil] at isText
      cases isText
      exact notEmpty (by rw [noBuffer, String.append_empty])

/-- The bytes up to and with the first newline, and those after it. -/
def nextLine (input : List UInt8) : List UInt8 × List UInt8 :=
  let after := input.dropWhile (· != 10)
  (input.takeWhile (· != 10) ++ after.take 1, after.drop 1)

theorem nextLine_append (input : List UInt8) : (nextLine input).1 ++ (nextLine input).2 = input := by
  rw [nextLine, List.append_assoc, List.take_append_drop, List.takeWhile_append_dropWhile]

/-- What is reported when a line is not text. -/
def invalidLine : String :=
  "Error: " ++ ReadFailure.invalidText.describe ++ "\n"

/-- Takes turns with the lines of the input, to its end or to the first line that is
not text. -/
def converse (p : Prompt) (memory : Memory) (input : List UInt8) : Outcome :=
  match _ : p.turn memory (nextLine input).1 with
  | .ended => ⟨0, p.text, ""⟩
  | .notText => ⟨1, p.text, invalidLine⟩
  | .answered reply after =>
    let later := p.converse after (nextLine input).2
    ⟨later.code, p.text ++ reply.printed ++ later.stdout, reply.reported ++ later.stderr⟩
termination_by memory.buffer.length + input.length
decreasing_by
  obtain ⟨cleared, given⟩ := turn_eq_answered ‹_›
  have lengths := congrArg List.length (nextLine_append input)
  rw [List.length_append] at lengths
  rw [cleared, String.length_empty]
  rcases given with given | given
  · have full : memory.buffer.length ≠ 0 := fun none => given (String.length_eq_zero_iff.mp none)
    omega
  · have full : (nextLine input).1.length ≠ 0 := fun none => given (List.length_eq_zero_iff.mp none)
    omega

end Prompt

end CommandLine
end ReversibleGrammar
