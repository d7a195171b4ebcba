/-
# Nullable and left-recursive symbols

A symbol is nullable when it derives the empty sentence: one of its rules has
nullable symbols only. A symbol is left-recursive when it can stand at the
start of itself, behind nullable symbols, so that expanding it never ends. The
nullable symbols are the closure of clauses read off the rules, and the
left-recursive ones are on the cycles of a graph.

Key definitions: `Grammar.nullable`, `Grammar.leading`, `Grammar.starts`,
`Grammar.leftRecursive`.
-/
import ReversibleGrammar.Closure
import ReversibleGrammar.Grammar
import ReversibleGrammar.Graph

namespace ReversibleGrammar
namespace Grammar

/-- The names of a right-hand side that holds symbols only. -/
def allSymbols? : List Element → Option (List String)
  | [] => some []
  | .terminal _ :: _ => none
  | .symbol name :: rest => (allSymbols? rest).map (name :: ·)

/-- A rule of symbols only makes its own symbol nullable when all of them are. -/
def nullableClause? (rule : Rule) : Option Clause :=
  (allSymbols? rule.rhs).map fun names => ⟨names, rule.name⟩

/-- The symbols that derive the empty sentence. -/
def nullable (g : Grammar) : NameSet :=
  Clause.closure (g.rules.filterMap nullableClause?)

/-- The symbols that can stand at the start of a right-hand side, looking past
nullable ones. -/
def leading (nullable : NameSet) : List Element → List String
  | [] => []
  | .terminal _ :: _ => []
  | .symbol name :: rest => if name ∈ nullable then name :: leading nullable rest else [name]

/-- Each rule leads from its symbol to those that can stand at its start. -/
def starts (g : Grammar) : Graph :=
  let nullable := g.nullable
  .ofRows (g.rules.map fun rule => (rule.name, leading nullable rule.rhs))

/-- The symbols that can expand into themselves without a word. -/
def leftRecursive (g : Grammar) : NameSet :=
  let starts := g.starts
  .ofList (g.names.filter starts.onCycle)

end Grammar
end ReversibleGrammar
