/-
# Grammars

A grammar is a list of rules. It is read symbol by symbol: the symbols stand in
the order in which they are first defined, and the rules of one symbol in the
order in which they were added. Nothing is checked when rules are added.

Key definitions: `Grammar`, `Grammar.rulesOf`, `Grammar.names`,
`Grammar.ordered`, `Grammar.missing`, `Grammar.literals`, `Grammar.written`.
Key theorems: `Grammar.rulesOf_add`, `Grammar.mem_referenced`, `Grammar.mem_missing`,
`Grammar.mem_literals`.
-/
import ReversibleGrammar.NameSet
import ReversibleGrammar.Rule

namespace ReversibleGrammar

/-- Rules in the order in which they were added. -/
structure Grammar where
  rules : List Rule

namespace Grammar

/-- The grammar without rules. -/
def empty : Grammar := ⟨[]⟩

/-- Adds a rule. -/
def push (g : Grammar) (rule : Rule) : Grammar :=
  ⟨g.rules ++ [rule]⟩

/-- The rules of the first grammar, then those of the second. -/
instance : Add Grammar := ⟨fun a b => ⟨a.rules ++ b.rules⟩⟩

/-! ### Reading by symbol -/

/-- The rules that define a symbol. -/
def rulesOf (g : Grammar) (name : String) : List Rule :=
  g.rules.filter fun rule => rule.name == name

/-- The rules of a symbol in two grammars are those of the first, then those of the second. -/
theorem rulesOf_add (a b : Grammar) (name : String) :
    (a + b).rulesOf name = a.rulesOf name ++ b.rulesOf name :=
  List.filter_append _ _

theorem mem_rulesOf {g : Grammar} {name : String} {rule : Rule} :
    rule ∈ g.rulesOf name ↔ rule ∈ g.rules ∧ rule.name = name := by
  simp [rulesOf]

/-- A list without the repetitions of an element, the first one kept. -/
def firsts : List String → List String
  | [] => []
  | name :: rest => name :: (firsts rest).filter fun other => other != name

/-- The defined symbols, in the order of their first rules. -/
def names (g : Grammar) : List String :=
  firsts (g.rules.map Rule.name)

/-- All rules, symbol by symbol. -/
def ordered (g : Grammar) : List Rule :=
  g.names.flatMap g.rulesOf

/-- The number of rules. -/
def size (g : Grammar) : Nat :=
  g.rules.length

/-! ### Symbols -/

/-- All elements of all right-hand sides. -/
def elements (g : Grammar) : List Element :=
  g.rules.flatMap Rule.rhs

/-- The symbols with at least one rule. -/
def defined (g : Grammar) : NameSet :=
  .ofList (g.rules.map Rule.name)

/-- The symbols that some right-hand side refers to. -/
def referenced (g : Grammar) : NameSet :=
  .ofList (g.elements.filterMap Element.symbol?)

/-- The symbols that are referred to and not defined. -/
def missing (g : Grammar) : NameSet :=
  g.referenced.diff g.defined

/-- The symbols that are defined and not referred to, start symbols among them. -/
def unreferenced (g : Grammar) : NameSet :=
  g.defined.diff g.referenced

theorem mem_defined {g : Grammar} {name : String} :
    name ∈ g.defined ↔ ∃ rule ∈ g.rules, rule.name = name := by
  simp [defined, NameSet.mem_ofList]

theorem mem_elements {g : Grammar} {element : Element} :
    element ∈ g.elements ↔ ∃ rule ∈ g.rules, element ∈ rule.rhs :=
  List.mem_flatMap

theorem mem_referenced {g : Grammar} {name : String} :
    name ∈ g.referenced ↔ ∃ rule ∈ g.rules, Element.symbol name ∈ rule.rhs := by
  rw [← mem_elements, referenced, NameSet.mem_ofList, List.mem_filterMap]
  simp [Element.symbol?_eq_some_iff]

/-- The missing symbols are those that some rule refers to and none defines. -/
theorem mem_missing {g : Grammar} {name : String} :
    name ∈ g.missing ↔ name ∈ g.referenced ∧ name ∉ g.defined :=
  NameSet.mem_diff

/-- The tokens that some rule names literally. -/
def literals (g : Grammar) : NameSet :=
  .ofList (g.elements.filterMap Element.literal?)

theorem mem_literals {g : Grammar} {token : String} :
    token ∈ g.literals ↔ ∃ rule ∈ g.rules, Element.terminal (.literal token) ∈ rule.rhs := by
  rw [← mem_elements, literals, NameSet.mem_ofList, List.mem_filterMap]
  simp [Element.literal?_eq_some_iff]

/-- The grammar in its notation, one rule a line. -/
def written (g : Grammar) : String :=
  String.join (g.ordered.map fun rule => rule.written ++ "\n")

end Grammar

end ReversibleGrammar
