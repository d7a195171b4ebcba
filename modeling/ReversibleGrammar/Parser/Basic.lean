/-
# Parsers

A parser is a complete grammar with a budget: how many symbols may be expanded
inside each other before a search gives up. What ends a search is a defect of
the grammar, never a sentence without a meaning.

Key definitions: `Parser`, `Parser.ofGrammar`, `SearchFault`.
Key theorems: `Parser.ofGrammar_of_complete`, `Parser.eq_of_ofGrammar`.
-/
import ReversibleGrammar.Grammar.Loading
import ReversibleGrammar.Template.Fault

namespace ReversibleGrammar

/-- How deep symbols may be nested when nothing else is said. -/
def defaultMaxDepth : Nat := 128

/-- A complete grammar and a budget of nested symbols. -/
structure Parser where
  grammar : Grammar
  complete : grammar.Complete
  maxDepth : Nat := defaultMaxDepth

/-- The parser of a grammar; an incomplete grammar has none. -/
def Parser.ofGrammar (g : Grammar) : Except LoadError Parser :=
  if complete : g.Complete then .ok { grammar := g, complete }
  else .error (.incomplete g.missing)

theorem Parser.ofGrammar_of_complete {g : Grammar} (complete : g.Complete) :
    ofGrammar g = .ok { grammar := g, complete } :=
  dif_pos complete

/-- Only a complete grammar has a parser. -/
theorem Parser.eq_of_ofGrammar {g : Grammar} {p : Parser} (accepted : ofGrammar g = .ok p) :
    ∃ complete : g.Complete, p = { grammar := g, complete } := by
  unfold ofGrammar at accepted
  split at accepted
  · rename_i complete
    cases accepted
    exact ⟨complete, rfl⟩
  · cases accepted

/-- What ends a search. -/
inductive SearchFault where
  /-- The symbol has no rules. -/
  | undefinedSymbol (symbol : String)
  /-- More symbols are nested than the budget allows. -/
  | depthExceeded (symbol : String) (limit : Nat)
  /-- The template of a rule is at fault. -/
  | inRule (rule : Rule) (cause : TemplateFault)

/-- The wording of a search fault. -/
def SearchFault.message : SearchFault → String
  | undefinedSymbol symbol => "no rules for <" ++ symbol ++ ">"
  | depthExceeded symbol limit =>
    "recursion deeper than " ++ limit.repr ++ " while expanding <" ++ symbol ++ ">"
  | inRule rule cause => "in rule " ++ rule.display ++ ": " ++ cause.message

end ReversibleGrammar
