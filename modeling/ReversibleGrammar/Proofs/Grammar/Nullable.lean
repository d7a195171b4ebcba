/-
# What it means to be nullable

The nullable symbols are the least ones such that a symbol is among them as soon as
one of its rules has only symbols among them. They are just those that a tree without
words fits, and a sequence of elements is fitted by trees without words when it holds
nullable symbols only.

Key definitions: `Grammar.SymbolsOnly`.
Key theorems: `Grammar.mem_nullable_of_rule`, `Grammar.nullable_induction`,
`Grammar.mem_nullable_iff`, `Grammar.symbolsOnly_nullable_iff`.
-/
import ReversibleGrammar.Grammar.Analysis
import ReversibleGrammar.Proofs.Tree.Derivation

namespace ReversibleGrammar
namespace Grammar

variable {g : Grammar}

/-- Every element is a symbol with the property. -/
def SymbolsOnly (P : String → Prop) (elements : List Element) : Prop :=
  ∀ element ∈ elements, ∃ name, element = .symbol name ∧ P name

theorem symbolsOnly_cons_iff {P : String → Prop} {element : Element} {rest : List Element} :
    SymbolsOnly P (element :: rest) ↔
      (∃ name, element = .symbol name ∧ P name) ∧ SymbolsOnly P rest :=
  List.forall_mem_cons

/-- Such elements are the symbols of names with the property. -/
theorem symbolsOnly_iff_map {P : String → Prop} {elements : List Element} :
    SymbolsOnly P elements ↔
      ∃ names : List String, elements = names.map Element.symbol ∧ ∀ name ∈ names, P name := by
  constructor
  · intro each
    induction elements with
    | nil => exact ⟨[], rfl, by simp⟩
    | cons element rest ih =>
      obtain ⟨⟨name, rfl, here⟩, later⟩ := symbolsOnly_cons_iff.mp each
      obtain ⟨names, rfl, others⟩ := ih later
      exact ⟨name :: names, rfl, List.forall_mem_cons.mpr ⟨here, others⟩⟩
  · rintro ⟨names, rfl, each⟩ element mem
    obtain ⟨name, there, rfl⟩ := List.mem_map.mp mem
    exact ⟨name, rfl, each name there⟩

/-! ### Closed under the rules, and least -/

theorem symbolsOnly_iff {P : String → Prop} : ∀ {elements : List Element},
    SymbolsOnly P elements ↔ ∃ names, allSymbols? elements = some names ∧ ∀ name ∈ names, P name
  | [] => by simp [SymbolsOnly, allSymbols?]
  | .terminal t :: rest => by simp [symbolsOnly_cons_iff, allSymbols?]
  | .symbol name :: rest => by
    rw [symbolsOnly_cons_iff, symbolsOnly_iff]
    constructor
    · rintro ⟨⟨name', same, holds⟩, names, all, each⟩
      cases same
      exact ⟨name :: names, by rw [allSymbols?, all]; rfl, List.forall_mem_cons.mpr ⟨holds, each⟩⟩
    · rintro ⟨names, all, each⟩
      obtain ⟨others, all', rfl⟩ := Option.map_eq_some_iff.mp all
      have each := List.forall_mem_cons.mp each
      exact ⟨⟨name, rfl, each.1⟩, others, all', each.2⟩

/-- A rule of nullable symbols makes its own symbol nullable. -/
theorem mem_nullable_of_rule {rule : Rule} (mem : rule ∈ g.rules)
    (each : SymbolsOnly (· ∈ g.nullable) rule.rhs) : rule.name ∈ g.nullable := by
  obtain ⟨names, all, nullable⟩ := symbolsOnly_iff.mp each
  have clause : ⟨names, rule.name⟩ ∈ g.rules.filterMap nullableClause? :=
    List.mem_filterMap.mpr ⟨rule, mem, by rw [nullableClause?, all]; rfl⟩
  have follows : ∀ name ∈ names, Clause.Follows (g.rules.filterMap nullableClause?) name :=
    fun name member => Clause.mem_closure.mp (nullable name member)
  exact Clause.mem_closure.mpr (.conclude _ clause follows)

/-- What every rule passes on to its symbol from symbols that have it, all nullable
symbols have. -/
theorem nullable_induction {P : String → Prop}
    (step : ∀ rule ∈ g.rules, SymbolsOnly P rule.rhs → P rule.name) {name : String}
    (nullable : name ∈ g.nullable) : P name := by
  have follows : Clause.Follows (g.rules.filterMap nullableClause?) name :=
    Clause.mem_closure.mp nullable
  clear nullable
  induction follows with
  | conclude c mem _ ih =>
    obtain ⟨rule, member, isClause⟩ := List.mem_filterMap.mp mem
    obtain ⟨names, all, rfl⟩ := Option.map_eq_some_iff.mp isClause
    exact step rule member (symbolsOnly_iff.mpr ⟨names, all, ih⟩)

/-! ### Trees without words -/

theorem exists_fitsEach_of_symbolsOnly : ∀ {elements : List Element},
    SymbolsOnly (fun name => ∃ tree, g.Fits tree name ∧ tree.words = []) elements →
      ∃ forest, g.FitsEach forest elements ∧ forest.words = []
  | [], _ => ⟨.nil, .nil, rfl⟩
  | element :: rest, each => by
    obtain ⟨⟨name, rfl, tree, fits, empty⟩, later⟩ := symbolsOnly_cons_iff.mp each
    obtain ⟨forest, fits', empty'⟩ := exists_fitsEach_of_symbolsOnly later
    refine ⟨.tree tree forest, .tree fits fits', ?_⟩
    rw [Forest.words, empty, empty', List.append_nil]

mutual

/-- A symbol that a tree without words fits is nullable. -/
theorem Fits.mem_nullable : ∀ {tree : Tree} {name : String}, g.Fits tree name →
    tree.words = [] → name ∈ g.nullable
  | _, _, .node ruleAt fits, empty => by
    have each := fits.symbolsOnly empty
    have member := mem_rulesOf.mp (List.mem_of_getElem? ruleAt)
    rw [← member.2]
    exact mem_nullable_of_rule member.1 each

theorem FitsEach.symbolsOnly : ∀ {forest : Forest} {elements : List Element},
    g.FitsEach forest elements → forest.words = [] → SymbolsOnly (· ∈ g.nullable) elements
  | _, _, .nil, _ => fun _ mem => absurd mem List.not_mem_nil
  | _, _, .word _ _, empty => by cases empty
  | _, _, @FitsEach.tree _ name _ _ _ first fits, empty => by
    rw [Forest.words, List.append_eq_nil_iff] at empty
    have here : name ∈ g.nullable := first.mem_nullable empty.1
    exact symbolsOnly_cons_iff.mpr ⟨⟨name, rfl, here⟩, fits.symbolsOnly empty.2⟩

end

/-- A symbol is nullable exactly if some tree without words fits it. -/
theorem mem_nullable_iff {name : String} :
    name ∈ g.nullable ↔ ∃ tree, g.Fits tree name ∧ tree.words = [] := by
  constructor
  · intro nullable
    refine nullable_induction (P := fun name => ∃ tree, g.Fits tree name ∧ tree.words = [])
      (fun rule mem each => ?_) nullable
    obtain ⟨forest, fits, empty⟩ := exists_fitsEach_of_symbolsOnly each
    obtain ⟨position, ruleAt⟩ := List.getElem?_of_mem (mem_rulesOf.mpr ⟨mem, rfl⟩)
    exact ⟨.node position forest, .node ruleAt fits, empty⟩
  · rintro ⟨tree, fits, empty⟩
    exact fits.mem_nullable empty

/-- Elements are nullable symbols exactly if some forest without words fits them. -/
theorem symbolsOnly_nullable_iff {elements : List Element} :
    SymbolsOnly (· ∈ g.nullable) elements ↔
      ∃ forest, g.FitsEach forest elements ∧ forest.words = [] := by
  constructor
  · intro each
    apply exists_fitsEach_of_symbolsOnly
    intro element mem
    obtain ⟨name, isSymbol, nullable⟩ := each element mem
    exact ⟨name, isSymbol, mem_nullable_iff.mp nullable⟩
  · rintro ⟨forest, fits, empty⟩
    exact fits.symbolsOnly empty

end Grammar
end ReversibleGrammar
