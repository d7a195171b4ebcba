/-
# Parsing the empty sentence

A symbol derives the empty sentence if it can be replaced by the symbols of its rules, step
by step, until nothing is left; rules with a terminal cannot take part. The nullable symbols
are just those, and the parser agrees: what it finds for the empty sentence shows that the
symbol is nullable, and without a fault it finds something for each nullable symbol, however
deep its derivation is nested.

Key definitions: `Grammar.Expands`.
Key theorems: `Grammar.nullable_iff_expands`, `Parser.nullable_iff_parses_empty`,
`Parser.nullable_is_deriving_nothing`.
-/
import Mathlib.Logic.Relation
import ReversibleGrammar.Proofs.Grammar.NullablePasses
import ReversibleGrammar.Proofs.Parser.Parsing

namespace ReversibleGrammar
namespace Grammar

open Relation (ReflTransGen)

variable {g : Grammar} {names others rest : List String} {name : String}

/-- One step of a derivation: a symbol is replaced by what one of its rules holds, if that is
symbols only. -/
inductive Expands (g : Grammar) : List String → List String → Prop
  | rule {rule : Rule} {symbols : List String} (mem : rule ∈ g.rules)
      (only : rule.rhs = symbols.map Element.symbol) (before after : List String) :
      g.Expands (before ++ rule.name :: after) (before ++ symbols ++ after)

theorem Expands.append_right (step : g.Expands names others) (rest : List String) :
    g.Expands (names ++ rest) (others ++ rest) := by
  cases step with
  | rule mem only before after =>
    simp only [List.append_assoc, List.cons_append]
    rw [← List.append_assoc before]
    exact .rule mem only before (after ++ rest)

/-- Symbols that each vanish vanish together. -/
theorem expands_nil_of_each : ∀ {names : List String},
    (∀ name ∈ names, ReflTransGen g.Expands [name] []) → ReflTransGen g.Expands names []
  | [], _ => .refl
  | name :: rest, each => by
    obtain ⟨here, later⟩ := List.forall_mem_cons.mp each
    have first : ReflTransGen g.Expands ([name] ++ rest) ([] ++ rest) :=
      here.lift (· ++ rest) fun _ _ step => step.append_right rest
    exact first.trans (expands_nil_of_each later)

/-- What vanishes holds nullable symbols only. The induction goes from the end of the
derivation, where nothing is left, back to its start. -/
theorem nullable_of_expands_nil (vanishes : ReflTransGen g.Expands names []) :
    ∀ name ∈ names, name ∈ g.nullable := by
  induction vanishes using ReflTransGen.head_induction_on with
  | refl => simp
  | head step _ ih =>
    cases step with
    | @rule rule symbols mem only before after =>
      have replaced : rule.name ∈ g.nullable := by
        refine mem_nullable_of_rule mem (symbolsOnly_iff_map.mpr ⟨symbols, only, ?_⟩)
        exact fun name there => ih name (by simp [there])
      intro name there
      rcases List.mem_append.mp there with there | there
      · exact ih name (by simp [there])
      · rcases List.mem_cons.mp there with rfl | there
        · exact replaced
        · exact ih name (by simp [there])

/-- The nullable symbols are those that vanish step by step. -/
theorem nullable_iff_expands : name ∈ g.nullable ↔ ReflTransGen g.Expands [name] [] := by
  constructor
  · refine nullable_induction (P := fun name => ReflTransGen g.Expands [name] [])
      fun rule mem each => ?_
    obtain ⟨symbols, only, each⟩ := symbolsOnly_iff_map.mp each
    have step : g.Expands ([] ++ rule.name :: []) ([] ++ symbols ++ []) := .rule mem only [] []
    rw [List.nil_append, List.nil_append, List.append_nil] at step
    exact .head step (expands_nil_of_each each)
  · exact fun vanishes => nullable_of_expands_nil vanishes name (by simp)

end Grammar

namespace Parser

variable {p : Parser} {symbol : String}

/-- What is found for the empty sentence is derived by a tree without words. -/
theorem nullable_of_mem_parse {value : Value} (found : value ∈ (p.parse symbol []).successes) :
    symbol ∈ p.grammar.nullable := by
  obtain ⟨tree, derives, empty⟩ := exists_derives_of_mem_parse found
  exact derives.fits.mem_nullable empty

theorem nullable_iff_parses_empty (noFault : (p.parse symbol []).fault? = none) :
    (p.parse symbol []).successes ≠ [] ↔ symbol ∈ p.grammar.nullable := by
  constructor
  · intro some
    obtain ⟨value, found⟩ := List.exists_mem_of_ne_nil _ some
    exact nullable_of_mem_parse found
  · intro nullable
    obtain ⟨tree, fits, empty⟩ := Grammar.mem_nullable_iff.mp nullable
    rw [← empty] at noFault ⊢
    obtain ⟨value, found, -⟩ := exists_mem_parse_of_fits noFault fits
    exact List.ne_nil_of_mem found

/-- **The nullable symbols are those that derive nothing.** They are what passes over the rules
find, also in an incomplete grammar: the symbols that rules without terminals replace step by step
until nothing is left, and those of which there is a tree without words. The parser only finds
values of the empty sentence for nullable symbols, and for each of them unless it comes to a
fault, whatever its budget. -/
theorem nullable_is_deriving_nothing :
    (∀ (g : Grammar) (name : String), g.nullableInPasses = g.nullable ∧
      (name ∈ g.nullable ↔ Relation.ReflTransGen g.Expands [name] []) ∧
      (name ∈ g.nullable ↔ ∃ tree, g.Fits tree name ∧ tree.words = [])) ∧
    ∀ (p : Parser) (symbol : String),
      ((p.parse symbol []).successes ≠ [] → symbol ∈ p.grammar.nullable) ∧
      ((p.parse symbol []).fault? = none →
        ((p.parse symbol []).successes ≠ [] ↔ symbol ∈ p.grammar.nullable)) := by
  refine ⟨fun g name => ⟨Grammar.nullableInPasses_eq g, Grammar.nullable_iff_expands,
    Grammar.mem_nullable_iff⟩, fun p symbol => ⟨fun some => ?_, nullable_iff_parses_empty⟩⟩
  obtain ⟨value, found⟩ := List.exists_mem_of_ne_nil _ some
  exact nullable_of_mem_parse found

/-- A grammar in which one symbol vanishes by another one, which is defined later and by its
second rule only, and a third one does not. -/
def vanishingParser : Parser where
  grammar := ⟨[
    ⟨"s", [.symbol "a", .symbol "a"], .list [.slot 0 none, .slot 1 none] []⟩,
    ⟨"t", [.symbol "a", .terminal .textSpan], .slot 1 none⟩,
    ⟨"a", [.terminal (.literal "x"), .symbol "s"], .slot 0 none⟩,
    ⟨"a", [], .empty⟩]⟩
  complete := by decide
  maxDepth := 1

/-- The first symbol has a value for the empty sentence, and the other, behind whose first
symbol a word must follow, has none. -/
theorem vanishingParser_parses_empty :
    (vanishingParser.parse "s" []).fault? = none ∧
      (vanishingParser.parse "s" []).successes = [.list [.null, .null]] ∧
      "s" ∈ vanishingParser.grammar.nullable ∧ "s" ∈ vanishingParser.grammar.nullableInPasses ∧
      (∃ tree, vanishingParser.grammar.Fits tree "s" ∧ tree.words = []) ∧
      (vanishingParser.parse "t" []).fault? = none ∧ "t" ∉ vanishingParser.grammar.nullable := by
  obtain ⟨nullables, parsers⟩ := nullable_is_deriving_nothing
  obtain ⟨inPasses, -, trees⟩ := nullables vanishingParser.grammar "s"
  have found : (vanishingParser.parse "s" []).successes = [.list [.null, .null]] := by rfl
  have none : (vanishingParser.parse "t" []).successes = [] := by rfl
  have vanishes : "s" ∈ vanishingParser.grammar.nullable :=
    ((parsers vanishingParser "s").2 rfl).mp (by rw [found]; simp)
  refine ⟨rfl, found, vanishes, by rwa [inPasses], trees.mp vanishes, rfl, fun nullable => ?_⟩
  exact ((parsers vanishingParser "t").2 rfl).mpr nullable none

end Parser
end ReversibleGrammar
