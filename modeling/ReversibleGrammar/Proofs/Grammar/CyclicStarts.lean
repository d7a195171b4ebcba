/-
# Left recursion by search

The left-recursive symbols can be found in a table of starts. Going through the rules, what
can stand at the start of a rule is added to the targets of its symbol; then each symbol is
searched for from its own targets. The result is exact: the symbols that lead back to
themselves in one step or more, a step being a rule in which only nullable symbols stand in
front of the next symbol. Whether all symbols that are referred to are defined does not
matter, nor does the order in which the table holds its rows and their targets.

Key definitions: `Grammar.StartsWith`, `Grammar.startTable`.
Key theorems: `Grammar.leads_startTable_iff`, `Grammar.mem_leftRecursive_iff_transGen`,
`Grammar.leftRecursive_is_exact`.
-/
import Mathlib
import ReversibleGrammar.Proofs.Grammar.LeftRecursion
import ReversibleGrammar.Proofs.Grammar.NullablePasses
import ReversibleGrammar.Proofs.Graph.CycleSearch
import ReversibleGrammar.Proofs.Graph.Rank

namespace ReversibleGrammar

open Relation (ReflTransGen TransGen)

/-! ### Ways through a graph -/

theorem Graph.reaches_iff {g : Graph} {a b : String} : g.Reaches a b ↔ ReflTransGen g.Arrow a b := by
  constructor
  · intro way
    induction way with
    | here => exact .refl
    | step arrow _ ih => exact .head arrow ih
  · intro way
    induction way using ReflTransGen.head_induction_on with
    | refl => exact .here b
    | head arrow _ ih => exact .step arrow ih

theorem Graph.onCycle_iff_transGen {g : Graph} {name : String} :
    g.onCycle name = true ↔ TransGen g.Arrow name name := by
  rw [Graph.onCycle_iff, TransGen.head'_iff]
  simp only [Graph.reaches_iff]

namespace Grammar

variable {g : Grammar} {nullable : NameSet} {a b name : String}

/-- The first symbol has a rule in which the second one stands behind nullable symbols only. -/
def StartsWith (g : Grammar) (a b : String) : Prop :=
  ∃ rule ∈ g.rulesOf a, ∃ front rest, rule.rhs = front ++ .symbol b :: rest ∧
    SymbolsOnly (· ∈ g.nullable) front

/-- The left-recursive symbols are those that lead back to themselves. -/
theorem mem_leftRecursive_iff_transGen : name ∈ g.leftRecursive ↔ TransGen g.StartsWith name name := by
  have arrows : g.starts.Arrow = g.StartsWith := by
    funext a b
    exact propext arrow_starts_iff
  rw [mem_leftRecursive_iff, Graph.onCycle_iff_transGen, arrows]

/-! ### The table of starts -/

/-- Adds what can stand at the start of a rule to the targets of its symbol, which has a row
from then on, even if it is an empty one. -/
def addStarts (nullable : NameSet) (t : Table String) (rule : Rule) : Table String :=
  t.change rule.name fun targets => leading nullable rule.rhs ∪ targets

/-- What can stand at the start of the rules of each symbol. -/
def startTable (g : Grammar) : Table String :=
  g.ordered.foldl (addStarts g.nullableInPasses) ∅

theorem mem_row_addStarts {t : Table String} {rule : Rule} :
    b ∈ (addStarts nullable t rule).row a ↔
      rule.name = a ∧ b ∈ leading nullable rule.rhs ∨ b ∈ t.row a := by
  rw [addStarts, Table.row_change]
  by_cases same : a = rule.name
  · rw [if_pos same, List.mem_union_iff, same]
    simp
  · have apart : ¬ (rule.name = a ∧ b ∈ leading nullable rule.rhs) := fun h => same h.1.symm
    rw [if_neg same, or_iff_right apart]

/-- What rules add to the targets of a symbol is what can stand at the start of one of them. -/
theorem mem_row_foldl_addStarts : ∀ {rules : List Rule} {t : Table String},
    b ∈ (rules.foldl (addStarts nullable) t).row a ↔
      (∃ rule ∈ rules, rule.name = a ∧ b ∈ leading nullable rule.rhs) ∨ b ∈ t.row a
  | [], t => by simp
  | rule :: rest, t => by
    rw [List.foldl_cons, mem_row_foldl_addStarts, mem_row_addStarts]
    simp only [List.mem_cons, or_and_right, exists_or, exists_eq_left]
    exact or_left_comm.trans or_assoc.symm

/-- The table leads from each symbol to those that it can start with. -/
theorem leads_startTable_iff : g.startTable.Leads a b ↔ g.StartsWith a b := by
  have noRow : b ∉ (∅ : Table String).row a := List.not_mem_nil
  rw [Table.Leads, startTable, mem_row_foldl_addStarts, nullableInPasses_eq, or_iff_left noRow]
  constructor
  · rintro ⟨rule, mem, isName, start⟩
    exact ⟨rule, mem_rulesOf.mpr ⟨mem_ordered.mp mem, isName⟩, mem_leading_iff.mp start⟩
  · rintro ⟨rule, mem, start⟩
    obtain ⟨mem, isName⟩ := mem_rulesOf.mp mem
    exact ⟨rule, mem_ordered.mpr mem, isName, mem_leading_iff.mpr start⟩

/-- Searching the table finds the left-recursive symbols. -/
theorem cyclic_startTable (g : Grammar) : g.startTable.cyclic = g.leftRecursive := by
  have leads : g.startTable.Leads = g.StartsWith := by
    funext a b
    exact propext leads_startTable_iff
  refine NameSet.ext fun name => ?_
  rw [Table.mem_cyclic_iff, leads, mem_leftRecursive_iff_transGen]

/-- **Left recursion is found exactly.** In any grammar the left-recursive symbols are those
that rules lead back to themselves in one step or more, behind nullable symbols. They are what
the search of the table of starts finds, in whatever order the table is gone through; and each
turn of a search lowers its potential, so it ends on every table. -/
theorem leftRecursive_is_exact :
    (∀ (g : Grammar) (name : String),
      name ∈ g.leftRecursive ↔ TransGen g.StartsWith name name) ∧
    (∀ (g : Grammar) (t : Table String), g.startTable.Rearranges t → t.cyclic = g.leftRecursive) ∧
    ∀ (t : Table String) (start : String) (h next : Hunt),
      t.turn? start h = some next → t.potential next < t.potential h := by
  refine ⟨fun g name => mem_leftRecursive_iff_transGen, fun g t same => ?_, fun t start h next turn => ?_⟩
  · rw [Table.cyclic_of_rearranges same, cyclic_startTable]
  · exact Table.potential_turn turn

/-- A grammar in which two symbols start with each other, one of them behind a symbol that may
vanish. A third one starts with the first, and with a symbol that is not defined. -/
def entangled : Grammar := ⟨[
  ⟨"o", [], .empty⟩,
  ⟨"c", [.symbol "o", .symbol "a"], .slot 1 none⟩,
  ⟨"a", [.symbol "o", .symbol "b", .terminal .textSpan], .slot 1 none⟩,
  ⟨"b", [.symbol "a"], .slot 0 none⟩,
  ⟨"c", [.symbol "u"], .slot 0 none⟩]⟩

/-- The table of starts of that grammar, its rows and their targets in another order. -/
def entangledTable : Table String :=
  ⟨[⟨"o", []⟩, ⟨"b", ["a"]⟩, ⟨"a", ["b", "o"]⟩, ⟨"c", ["a", "u", "o"]⟩], by rw [List.NodupKeys]; decide⟩

theorem entangled_rearranges : entangled.startTable.Rearranges entangledTable := by
  have rows : entangled.startTable.entries =
      [⟨"b", ["a"]⟩, ⟨"a", ["o", "b"]⟩, ⟨"c", ["u", "o", "a"]⟩, ⟨"o", []⟩] := by cbv
  refine Table.rearranges_of_keys ?_ ?_
  · rw [AList.keys, rows]
    decide
  · rw [AList.keys, rows]
    simp only [Table.row, AList.lookup, rows]
    decide

/-- The two symbols are found from the other table as well, and the third is not; the search for
the first one starts by seeing the symbol that may vanish. -/
theorem entangled_leftRecursive :
    (entangled.startTable.Rearranges entangledTable ∧
      entangledTable.cyclic = entangled.leftRecursive) ∧
    entangled.leftRecursive.toList = ["a", "b"] ∧ TransGen entangled.StartsWith "a" "a" ∧
    ¬ TransGen entangled.StartsWith "c" "c" ∧
    entangledTable.turn? "a" (entangledTable.begin "a") = some ⟨["o"], ["b"]⟩ ∧
    entangledTable.potential ⟨["o"], ["b"]⟩ < entangledTable.potential (entangledTable.begin "a") := by
  obtain ⟨exact, anyOrder, ends⟩ := leftRecursive_is_exact
  have found : entangledTable.cyclic = entangled.leftRecursive :=
    anyOrder entangled entangledTable entangled_rearranges
  have members : entangled.leftRecursive.toList = ["a", "b"] := by cbv
  have iff : ∀ name, TransGen entangled.StartsWith name name ↔ name ∈ ["a", "b"] := by
    intro name
    rw [← exact, ← members]
    rfl
  have turn : entangledTable.turn? "a" (entangledTable.begin "a") = some ⟨["o"], ["b"]⟩ := by rfl
  exact ⟨⟨entangled_rearranges, found⟩, members, (iff "a").mpr (by decide), mt (iff "c").mp (by decide),
    turn, ends _ _ _ _ turn⟩

end Grammar
end ReversibleGrammar
