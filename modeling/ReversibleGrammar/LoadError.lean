/-
# Why a grammar cannot be used

A grammar may be unreadable as a file, wrong in its notation, or incomplete,
that is, refer to symbols that it does not define.

Key definitions: `ReadFailure`, `LoadError`, `LoadError.message`,
`LoadError.describe`.
-/
import ReversibleGrammar.NameSet
import ReversibleGrammar.Notation.Problem

namespace ReversibleGrammar

/-- Why the text of a file cannot be read. -/
inductive ReadFailure where
  | notFound
  | isDirectory
  | notDirectory
  /-- The bytes are not text in UTF-8. -/
  | invalidText
  /-- Any other failure, by the number and the text of the operating system. -/
  | other (code : Nat) (text : String)
deriving DecidableEq

namespace ReadFailure

/-- The number, the kind and the text of a failure of the operating system. -/
def system? : ReadFailure → Option (Nat × String × String)
  | notFound => some (2, "NotFound", "No such file or directory")
  | isDirectory => some (21, "IsADirectory", "Is a directory")
  | notDirectory => some (20, "NotADirectory", "Not a directory")
  | invalidText => none
  | other code text => some (code, "Other", text)

/-- The wording for bytes that are not text. -/
def invalidTextMessage : String :=
  "stream did not contain valid UTF-8"

/-- The wording of a failure to read. -/
def message (failure : ReadFailure) : String :=
  match failure.system? with
  | some (code, _, text) => text ++ " (os error " ++ code.repr ++ ")"
  | none => invalidTextMessage

/-- The failure with all its parts, for diagnosis. -/
def describe (failure : ReadFailure) : String :=
  match failure.system? with
  | some (code, kind, text) =>
    "Os \x7b code: " ++ code.repr ++ ", kind: " ++ kind ++ ", message: " ++ Text.quote text ++
      " \x7d"
  | none =>
    "Error \x7b kind: InvalidData, message: " ++ Text.quote invalidTextMessage ++ " \x7d"

end ReadFailure

/-- Why a grammar cannot be used. -/
inductive LoadError where
  /-- The text is not a grammar; the line of the problem comes first. -/
  | badNotation (line : Nat) (problem : Notation.Problem)
  /-- Symbols are referred to and not defined. -/
  | incomplete (missing : NameSet)
  /-- The file cannot be read. -/
  | unreadable (path : String) (failure : ReadFailure)

namespace LoadError

/-- The wording of the reason. -/
def message : LoadError → String
  | badNotation line problem => "line " ++ line.repr ++ ": " ++ problem.message
  | incomplete missing =>
    "grammar is incomplete, missing rules for: " ++ ", ".intercalate missing.toList
  | unreadable path failure => "failed to read '" ++ path ++ "': " ++ failure.message

/-- The reason with all its parts, for diagnosis. -/
def describe : LoadError → String
  | badNotation line problem =>
    "Syntax \x7b line: " ++ line.repr ++ ", message: " ++ Text.quote problem.message ++ " \x7d"
  | incomplete missing =>
    "Incomplete \x7b missing: [" ++ ", ".intercalate (missing.toList.map Text.quote) ++ "] \x7d"
  | unreadable path failure =>
    "Io \x7b path: " ++ Text.quote path ++ ", source: " ++ failure.describe ++ " \x7d"

end LoadError

end ReversibleGrammar
