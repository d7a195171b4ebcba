/-
# What it means to be left-recursive

An arrow of the graph of starts says that some rule of the first symbol has the second
one behind nullable symbols only. A symbol is left-recursive when such arrows lead from
it back to it; if no symbol is, the graph has no cycle at all, for only defined symbols
have arrows from them.

Key theorems: `Grammar.arrow_starts_iff`, `Grammar.mem_leftRecursive_iff`.
-/
import ReversibleGrammar.Proofs.Grammar.Nullable
import ReversibleGrammar.Proofs.Grammar.Order

namespace ReversibleGrammar
namespace Grammar

variable {g : Grammar} {name : String}

/-! ### Starts -/

/-- What can stand at the start of elements are the symbols behind members of the set. -/
theorem mem_leading_iff {nullable : NameSet} : ∀ {elements : List Element},
    name ∈ leading nullable elements ↔ ∃ front rest,
      elements = front ++ .symbol name :: rest ∧ SymbolsOnly (· ∈ nullable) front
  | [] => by simp [leading]
  | .terminal t :: rest => by
    constructor
    · intro mem
      cases mem
    · rintro ⟨_ | ⟨first, front⟩, rest', split, each⟩
      · cases split
      · cases split
        obtain ⟨other, isSymbol, -⟩ := each _ List.mem_cons_self
        cases isSymbol
  | .symbol other :: rest => by
    have here : ∃ front rest', Element.symbol other :: rest = front ++ .symbol other :: rest' ∧
        SymbolsOnly (· ∈ nullable) front :=
      ⟨[], rest, rfl, fun _ mem => absurd mem List.not_mem_nil⟩
    unfold leading
    constructor
    · intro mem
      split at mem
      · rename_i null
        rcases List.mem_cons.mp mem with rfl | mem
        · exact here
        · obtain ⟨front, rest', rfl, each⟩ := mem_leading_iff.mp mem
          have each' : SymbolsOnly (· ∈ nullable) (.symbol other :: front) :=
            symbolsOnly_cons_iff.mpr ⟨⟨other, rfl, null⟩, each⟩
          exact ⟨.symbol other :: front, rest', rfl, each'⟩
      · obtain rfl := List.mem_singleton.mp mem
        exact here
    · rintro ⟨_ | ⟨first, front⟩, rest', split, each⟩
      · cases split
        split
        · exact List.mem_cons_self
        · exact List.mem_singleton_self name
      · cases split
        obtain ⟨⟨other', same, null⟩, each⟩ := symbolsOnly_cons_iff.mp each
        cases same
        rw [if_pos null]
        exact List.mem_cons_of_mem _ (mem_leading_iff.mpr ⟨front, rest', rfl, each⟩)

/-- An arrow leads from a symbol to one that stands in some rule of it behind nullable
symbols only. -/
theorem arrow_starts_iff {next : String} : g.starts.Arrow name next ↔
    ∃ rule ∈ g.rulesOf name, ∃ front rest, rule.rhs = front ++ .symbol next :: rest ∧
      SymbolsOnly (· ∈ g.nullable) front := by
  unfold starts
  rw [Graph.arrow_ofRows]
  constructor
  · rintro ⟨row, mem, rfl, leads⟩
    obtain ⟨rule, member, rfl⟩ := List.mem_map.mp mem
    exact ⟨rule, mem_rulesOf.mpr ⟨member, rfl⟩, mem_leading_iff.mp leads⟩
  · rintro ⟨rule, mem, leads⟩
    have member := mem_rulesOf.mp mem
    refine ⟨(rule.name, leading g.nullable rule.rhs), ?_, member.2, mem_leading_iff.mpr leads⟩
    exact List.mem_map_of_mem (f := fun rule => (rule.name, leading g.nullable rule.rhs)) member.1

/-! ### Cycles -/

/-- Only a defined symbol is on a cycle of the starts. -/
theorem mem_defined_of_onCycle (cycle : g.starts.onCycle name = true) : name ∈ g.defined := by
  obtain ⟨next, arrow, -⟩ := Graph.onCycle_iff.mp cycle
  obtain ⟨rule, mem, -⟩ := arrow_starts_iff.mp arrow
  exact mem_defined.mpr ⟨rule, mem_rulesOf.mp mem⟩

/-- The left-recursive symbols are those on a cycle of the graph of starts. -/
theorem mem_leftRecursive_iff : name ∈ g.leftRecursive ↔ g.starts.onCycle name = true := by
  unfold leftRecursive
  rw [NameSet.mem_ofList, List.mem_filter, mem_names]
  exact and_iff_right_of_imp mem_defined_of_onCycle

/-- Without left-recursive symbols the graph of starts has no cycle. -/
theorem onCycle_eq_false (none : g.leftRecursive = .empty) (name : String) :
    g.starts.onCycle name = false := by
  rw [← Bool.not_eq_true, ← mem_leftRecursive_iff, none]
  exact List.not_mem_nil

end Grammar
end ReversibleGrammar
