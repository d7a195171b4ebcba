/-
# Runs of the program

A run reads the arguments, loads the grammar of the file that they name, warns of its
left-recursive symbols, and answers the lines of the input at the prompt. Help ends a
run well, wrong arguments end it with code 255, and a grammar that cannot be used with
code 1. Warnings are handed to the log, which goes where faults are reported, before
the first prompt; what the log writes of a warning, if anything, it decides for itself.

Key definitions: `CommandLine.Refusal`, `CommandLine.Warning`, `CommandLine.warnings`,
`CommandLine.Prompt.ofGrammar`, `CommandLine.load`, `CommandLine.run`.
-/
import ReversibleGrammar.CommandLine.Prompt
import ReversibleGrammar.Grammar.Analysis

namespace ReversibleGrammar
namespace CommandLine

/-- What ends a run before the prompt. -/
inductive Refusal where
  | help
  | arguments (error : ArgumentError)
  | grammar (error : LoadError)
  /-- No start symbol is given, and there is no first rule. -/
  | noRules

/-- The code and the texts of a run that ends before the prompt. -/
def Refusal.outcome (program : String) : Refusal → Outcome
  | help => ⟨0, usage program ++ "\n", ""⟩
  | arguments e => ⟨255, "", e.message program ++ "\n"⟩
  | grammar e => ⟨1, "", "Error: " ++ e.describe ++ "\n"⟩
  | noRules => ⟨1, "", "Error: " ++ Text.quote "grammar has no rules" ++ "\n"⟩

/-! ### Warnings -/

/-- A warning for the log. -/
structure Warning where
  message : String
  symbol : String

/-- The warnings about a grammar, one for each left-recursive symbol. -/
def warnings (g : Grammar) : List Warning :=
  g.leftRecursive.toList.map fun symbol =>
    ⟨"left-recursive symbol, parsing it will exhaust the depth budget", symbol⟩

/-- What the log writes about a grammar. -/
def logged (log : Warning → String) (g : Grammar) : String :=
  String.join ((warnings g).map log)

/-- The outcome after a text was written where faults are reported. -/
def Outcome.behind (text : String) (outcome : Outcome) : Outcome :=
  { outcome with stderr := text ++ outcome.stderr }

/-! ### Running -/

/-- The prompt for a grammar, which must be complete. Without a start symbol that of the
first rule is taken. -/
def Prompt.ofGrammar (options : Options) (g : Grammar) : Except Refusal Prompt :=
  match options.start <|> g.names.head? with
  | none => .error .noRules
  | some start =>
    match Parser.ofGrammar g with
    | .error e => .error (.grammar e)
    | .ok parser => .ok ⟨parser, start, options.paraphrase, options.limit, options.unique⟩

/-- What the arguments ask for, and the grammar of the file that they name. -/
def load (read : String → Except ReadFailure (List UInt8)) (args : List String) :
    Except Refusal (Options × Grammar) :=
  match readArguments args with
  | .error e => .error (.arguments e)
  | .ok .help => .error .help
  | .ok (.run options) =>
    match Grammar.ofFile read options.file with
    | .error e => .error (.grammar e)
    | .ok g => .ok (options, g)

/-- The run with a grammar, once its warnings are logged. -/
def runWith (program : String) (options : Options) (g : Grammar) (input : List UInt8) : Outcome :=
  match Prompt.ofGrammar options g with
  | .error refusal => refusal.outcome program
  | .ok prompt => prompt.converse {} input

/-- The run of the program with arguments and input. -/
def run (log : Warning → String) (read : String → Except ReadFailure (List UInt8))
    (program : String) (args : List String) (input : List UInt8) : Outcome :=
  match load read args with
  | .error refusal => refusal.outcome program
  | .ok (options, g) => (runWith program options g input).behind (logged log g)

end CommandLine
end ReversibleGrammar
