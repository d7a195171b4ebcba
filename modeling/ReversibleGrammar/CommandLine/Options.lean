/-
# Options of the command line

The arguments are read from left to right. An option that takes a value takes
the next argument, whatever it looks like; of two values for one option the last
counts. The one argument that is neither an option nor a value names the file.

Key definitions: `CommandLine.Options`, `CommandLine.Request`,
`CommandLine.ArgumentError`, `CommandLine.readArguments`, `CommandLine.readVector`,
`CommandLine.usage`.
-/

namespace ReversibleGrammar
namespace CommandLine

/-- How the program is to run. -/
structure Options where
  file : String
  /-- The symbol to parse sentences as; without one, that of the first rule. -/
  start : Option String
  /-- Whether each value is followed by its paraphrases. -/
  paraphrase : Bool
  /-- How many values, and how many paraphrases of each, are wanted at most. -/
  limit : Nat
  /-- Whether repeated values and paraphrases are left out. -/
  unique : Bool
deriving DecidableEq

/-- What the arguments ask for. -/
inductive Request where
  | help
  | run (options : Options)
deriving DecidableEq

/-- What is wrong with the arguments. -/
inductive ArgumentError where
  | noArguments
  | missingStart
  | badLimit
  | secondFile
  | missingFile
deriving DecidableEq

/-- An option by its short or its long name. -/
inductive Flag where
  | help
  | noParaphrases
  | unique
  | start
  | limit
deriving DecidableEq

/-- The option that an argument names. -/
def Flag.ofName? (arg : String) : Option Flag :=
  if arg = "-h" ∨ arg = "--help" then some .help
  else if arg = "-n" ∨ arg = "--no-reverse" then some .noParaphrases
  else if arg = "-u" ∨ arg = "--unique" then some .unique
  else if arg = "-s" ∨ arg = "--start" then some .start
  else if arg = "-l" ∨ arg = "--limit" then some .limit
  else none

/-- The number that digits write, if there are digits and nothing else. -/
def readDigits? (cs : List Char) : Option Nat :=
  if cs.isEmpty || !cs.all Char.isDigit then none
  else some (cs.foldl (fun n c => 10 * n + (c.toNat - '0'.toNat)) 0)

/-- A limit, digits that a plus may precede, of at most 64 bits. -/
def readLimit? (arg : String) : Option Nat :=
  let digits := match arg.toList with
    | '+' :: rest => rest
    | cs => cs
  (readDigits? digits).filter (· < UInt64.size)

/-- The options read so far. -/
structure Draft where
  file : Option String := none
  start : Option String := none
  paraphrase : Bool := true
  limit : Nat := 10
  unique : Bool := false

/-- Reads the arguments that are left. An empty start symbol stands for none. -/
def readFrom (draft : Draft) : List String → Except ArgumentError Request
  | [] =>
    match draft.file with
    | none => .error .missingFile
    | some file =>
      .ok (.run ⟨file, draft.start, draft.paraphrase, draft.limit, draft.unique⟩)
  | arg :: rest =>
    match Flag.ofName? arg with
    | some .help => .ok .help
    | some .noParaphrases => readFrom { draft with paraphrase := false } rest
    | some .unique => readFrom { draft with unique := true } rest
    | some .start =>
      match rest with
      | [] => .error .missingStart
      | symbol :: rest =>
        readFrom { draft with start := if symbol.isEmpty then none else some symbol } rest
    | some .limit =>
      match rest with
      | [] => .error .badLimit
      | number :: rest =>
        match readLimit? number with
        | none => .error .badLimit
        | some limit => readFrom { draft with limit := limit } rest
    | none =>
      match draft.file with
      | none => readFrom { draft with file := some arg } rest
      | some _ => .error .secondFile

/-- Reads the arguments after the name of the program. -/
def readArguments (args : List String) : Except ArgumentError Request :=
  if args.isEmpty then .error .noArguments else readFrom {} args

/-! ### Wording -/

/-- How the program is used. -/
def usage (program : String) : String :=
  "Usage: " ++ program ++ " FILE [options]

Options:
  -h, --help            Print this message
  -s, --start SYMBOL    Symbol to parse sentences as (defaults to the first rule)
  -n, --no-reverse      Don't print paraphrases of each parse (defaults to printing)
  -l, --limit N         Stop after N parses and N paraphrases per parse (defaults to 10)
  -u, --unique          Skip repeated parses and paraphrases

Set RUST_LOG=trace to watch every rule the parser tries."

/-- The wording of what is wrong with the arguments. -/
def ArgumentError.reason : ArgumentError → String
  | noArguments => "not enough arguments"
  | missingStart => "missing start symbol"
  | badLimit => "limit must be a number"
  | secondFile => "invalid arguments"
  | missingFile => "missing filename"

/-- What is wrong with the arguments, and how the program is used. -/
def ArgumentError.message (program : String) (e : ArgumentError) : String :=
  "argument error: " ++ e.reason ++ ".\n\n" ++ usage program

/-- Reads an argument vector, of which the first entry is the name of the program. A vector
without it is told what the program is called. -/
def readVector : List String → Except String Request
  | [] => .error ("argument error: bad argument vector.\n\n" ++ usage "argrammar")
  | program :: args => (readArguments args).mapError (·.message program)

end CommandLine
end ReversibleGrammar
