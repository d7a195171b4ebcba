/-
# What is wrong with a notation text

A text that is not a grammar is refused with a cause and with the rest of the
text from the place of the problem on. That place is never a blank or a
comment, so it gives the line to report and an excerpt to show.

Key definitions: `Notation.Problem`, `Notation.Problem.message`,
`Notation.Problem.line`.
-/
import ReversibleGrammar.Unicode.Blank
import ReversibleGrammar.Value

namespace ReversibleGrammar
namespace Notation

/-- What a reader looked for and did not find. -/
inductive Expectation where
  | name
  | literal
  | terminalClass
  | slot
  | string
  /-- A fixed mark. -/
  | mark (text : String)
  /-- The end of a field, or of all fields. -/
  | fieldEnd
  /-- The end of an item, of the heads, or of the list. -/
  | itemEnd
deriving DecidableEq

/-- The wording of an expectation. -/
def Expectation.display : Expectation → String
  | name => "name"
  | literal => "literal"
  | terminalClass => "terminal class"
  | slot => "slot"
  | string => "string"
  | mark text => "`" ++ text ++ "`"
  | fieldEnd => "`,` or `\x7d`"
  | itemEnd => "`,`, `;` or `]`"

/-- Why a text is not a grammar. -/
inductive Cause where
  | expected (what : Expectation)
  /-- There is no class of terminals with the name. -/
  | unknownClass (name : String)
  /-- The index of a slot does not fit 64 bits. -/
  | badIndex (slot : String)
  | repeatedField (name tag : String)
  /-- A list template holds a fixed value. -/
  | mixedList
  /-- A fixed value stands in place of the template of a rule. -/
  | fixedTemplate (value : Value)
  | noRules
deriving DecidableEq

/-- A cause, and the text from the problem on. -/
structure Problem where
  cause : Cause
  rest : List Char
deriving DecidableEq

namespace Problem

/-- A line without the blanks at its end. -/
def trimEnd (line : List Char) : List Char :=
  (line.reverse.dropWhile Unicode.isBlank).reverse

/-- The rest of the line at a problem. -/
def excerpt (rest : List Char) : String :=
  if rest.isEmpty then "end of input"
  else "`" ++ String.ofList (trimEnd (rest.takeWhile (· != '\n'))) ++ "`"

/-- The wording of a problem. -/
def message (p : Problem) : String :=
  match p.cause with
  | .expected what => "expected " ++ what.display ++ " at " ++ excerpt p.rest
  | .unknownClass name => "unknown terminal class <" ++ name ++ ">"
  | .badIndex slot => "bad slot index in `" ++ slot ++ "`"
  | .repeatedField name tag => "field `" ++ name ++ "` is set twice in " ++ tag
  | .mixedList => "a list template cannot mix fixed values with slots"
  | .fixedTemplate value =>
    "a rule must build its value with a template, found fixed " ++ value.display
  | .noRules => "empty ruleset"

/-- The line of a text that the problem is on, counted from one. -/
def line (text : List Char) (p : Problem) : Nat :=
  (text.take (text.length - p.rest.length)).count '\n' + 1

end Problem

end Notation
end ReversibleGrammar
