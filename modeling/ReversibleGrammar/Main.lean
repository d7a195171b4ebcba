/-
# The program

The outer layer of the command line: it reads files and lines, and prints.

Key definitions: `main`.
-/
import ReversibleGrammar.CommandLine.Run

namespace ReversibleGrammar
namespace CommandLine

/-- The failure that an error of the system stands for; its number may come
with either sign. -/
def readFailure : IO.Error → ReadFailure
  | .noFileOrDirectory .. => .notFound
  | .inappropriateType _ code details =>
    match code.toInt32.toInt.natAbs with
    | 20 => .notDirectory
    | 21 => .isDirectory
    | number => .other number details
  | e => .other 0 e.toString

/-- Reads the bytes of a file. -/
def readBytes (path : String) : IO (Except ReadFailure (List UInt8)) := do
  try
    let bytes ← IO.FS.readBinFile path
    return .ok bytes.toList
  catch e => return .error (readFailure e)

/-- The file that a request needs. -/
def fileOf? (args : List String) : Option String :=
  match readArguments args with
  | .ok (.run options) => some options.file
  | _ => none

/-- Reads the bytes up to and with the next newline, after those already read. -/
partial def readLine (input : IO.FS.Stream) (read : List UInt8) : IO (List UInt8) := do
  match (← input.read 1).toList with
  | byte :: _ => if byte = 10 then return (byte :: read).reverse else readLine input (byte :: read)
  | [] => return read.reverse

/-- Takes turns until the input ends or a line is not text. -/
partial def loop (prompt : Prompt) (memory : Memory) (input output errors : IO.FS.Stream) :
    IO UInt32 := do
  output.putStr prompt.text
  output.flush
  match prompt.turn memory (← readLine input []) with
  | .ended => return 0
  | .notText =>
    errors.putStr Prompt.invalidLine
    return 1
  | .answered reply after =>
    output.putStr reply.printed
    errors.putStr reply.reported
    loop prompt after input output errors

/-- The log of warnings, which is silent where the environment asks for none. -/
def logTo (errors : IO.FS.Stream) (warning : Warning) : IO Unit := do
  match ← IO.getEnv "RUST_LOG" with
  | some "off" | some "error" => return
  | _ => errors.putStr ("WARN " ++ warning.message ++ " symbol=" ++ warning.symbol ++ "\n")

/-- Says why there is no prompt. -/
def refuse (program : String) (refusal : Refusal) (output errors : IO.FS.Stream) : IO UInt32 := do
  let outcome := refusal.outcome program
  output.putStr outcome.stdout
  errors.putStr outcome.stderr
  return outcome.code.toUInt32

/-- Runs the program with the arguments after its name. -/
def runProgram (program : String) (args : List String) : IO UInt32 := do
  let output ← IO.getStdout
  let errors ← IO.getStderr
  let content ← match fileOf? args with
    | none => pure (.error .notFound)
    | some file => readBytes file
  match load (fun _ => content) args with
  | .error refusal => refuse program refusal output errors
  | .ok (options, g) =>
    for warning in warnings g do
      logTo errors warning
    match Prompt.ofGrammar options g with
    | .error refusal => refuse program refusal output errors
    | .ok prompt => loop prompt {} (← IO.getStdin) output errors

end CommandLine
end ReversibleGrammar

/-- Runs the program under its own name. -/
def main (args : List String) : IO UInt32 := do
  ReversibleGrammar.CommandLine.runProgram (toString (← IO.appPath)) args
