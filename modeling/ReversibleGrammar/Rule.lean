/-
# Rules

A rule defines a symbol by a right-hand side, a list of terminals and symbols,
and a template that builds the symbol's value from those of its elements.

Key definitions: `Element`, `Rule`, `Rule.display`, `Rule.written`.
-/
import ReversibleGrammar.Template
import ReversibleGrammar.Terminal

namespace ReversibleGrammar

/-- One element of a right-hand side. -/
inductive Element where
  | terminal (terminal : Terminal)
  /-- Refers to the rules of a symbol. -/
  | symbol (name : String)

namespace Element

/-- The symbol that an element refers to. -/
def symbol? : Element → Option String
  | terminal _ => none
  | symbol name => some name

/-- The token that an element names literally. -/
def literal? : Element → Option String
  | terminal (.literal token) => some token
  | _ => none

/-- The text of an element, as grammars write it. -/
def display : Element → String
  | terminal t => t.display
  | symbol name => name

theorem symbol?_eq_some_iff {element : Element} {name : String} :
    element.symbol? = some name ↔ element = symbol name := by
  cases element <;> simp [symbol?]

theorem literal?_eq_some_iff {element : Element} {token : String} :
    element.literal? = some token ↔ element = terminal (.literal token) := by
  rcases element with (_ | _) | _ <;> simp [literal?]

end Element

/-- A production of a grammar. -/
structure Rule where
  /-- The symbol that the rule defines. -/
  name : String
  rhs : List Element
  /-- How the symbol's value is made; its slots count elements from zero. -/
  template : Template

namespace Rule

/-- The texts of the elements, each after a space. -/
def displayElements (elements : List Element) : String :=
  String.join (elements.map fun element => " " ++ element.display)

/-- The symbol and the elements of a rule, for messages. -/
def display (rule : Rule) : String :=
  "<" ++ rule.name ++ " ::=" ++
    (if rule.rhs.isEmpty then " ∅" else displayElements rule.rhs) ++ ">"

/-- The rule as grammars write it. -/
def written (rule : Rule) : String :=
  rule.name ++ " ::=" ++ displayElements rule.rhs ++ " => " ++ rule.template.display ++ ";"

end Rule

end ReversibleGrammar
