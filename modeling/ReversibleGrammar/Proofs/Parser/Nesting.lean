/-
# How derivations are nested

To derive a symbol from the front of a sentence is to derive others inside it: each
symbol of one of its rules, from the words that some trees for the elements in front of
it leave. Either words were taken, or the inner symbol can stand at the start of the
outer one.

A search for derivations runs the searches nested in it. So it has their faults: without
a fault it has run every one of them, and none had a fault. And it has no others but
that the symbol has no rules or that the template of one of them fails.

Key definitions: `Grammar.Nests`.
Key theorems: `Grammar.Nests.shorter_or_arrow`, `Grammar.nests_of_arrow`,
`Grammar.Nests.fault?_eq_none`, `Grammar.fault?_derive_cases`.
-/
import ReversibleGrammar.Proofs.Grammar.LeftRecursion
import ReversibleGrammar.Proofs.Grammar.References
import ReversibleGrammar.Proofs.Parser.Parsing

namespace ReversibleGrammar
namespace Grammar

variable {g : Grammar} {limit budget : Nat} {symbol inner : String} {words left : List Word}

/-- Deriving the symbol from the words comes to derive the inner symbol from those
that are left behind the elements in front of it. -/
inductive Nests (g : Grammar) (symbol : String) (words : List Word) (inner : String)
    (left : List Word) : Prop
  | inside {rule : Rule} {front rest : List Element} {forest : Forest}
      (mem : rule ∈ g.rulesOf symbol) (split : rule.rhs = front ++ .symbol inner :: rest)
      (fits : g.FitsEach forest front) (taken : forest.words ++ left = words) :
      g.Nests symbol words inner left

/-- What is nested is derived from fewer words, or it is at the start of the symbol. -/
theorem Nests.shorter_or_arrow (nests : g.Nests symbol words inner left) :
    left.length < words.length ∨ left = words ∧ g.starts.Arrow symbol inner := by
  obtain @⟨rule, front, rest, forest, mem, split, fits, taken⟩ := nests
  have length : forest.words.length + left.length = words.length := by
    rw [← taken, List.length_append]
  by_cases empty : forest.words = []
  · right
    rw [empty, List.nil_append] at taken
    have nullable : SymbolsOnly (· ∈ g.nullable) front :=
      symbolsOnly_nullable_iff.mpr ⟨forest, fits, empty⟩
    exact ⟨taken, arrow_starts_iff.mpr ⟨rule, mem, front, rest, split, nullable⟩⟩
  · left
    have some_taken : 0 < forest.words.length := List.length_pos_iff.mpr empty
    omega

/-- What can stand at the start of a symbol is nested in it, whatever the words are. -/
theorem nests_of_arrow (arrow : g.starts.Arrow symbol inner) (words : List Word) :
    g.Nests symbol words inner words := by
  obtain ⟨rule, mem, front, rest, split, nullable⟩ := arrow_starts_iff.mp arrow
  obtain ⟨forest, fits, empty⟩ := symbolsOnly_nullable_iff.mp nullable
  exact .inside mem split fits (by rw [empty, List.nil_append])

theorem Nests.refersTo (nests : g.Nests symbol words inner left) : g.RefersTo symbol inner := by
  obtain ⟨mem, split, -, -⟩ := nests
  exact ⟨_, mem, by simp [split]⟩

/-- In a complete grammar only defined symbols are nested. -/
theorem Nests.mem_defined (complete : g.Complete) (nests : g.Nests symbol words inner left) :
    inner ∈ g.defined :=
  nests.refersTo.mem_defined complete

/-! ### Without a fault -/

/-- Elements that are matched without a fault are so from wherever a forest for the
first of them leads to. -/
theorem fault?_matchElements_behind {back : List Element} : ∀ {front : List Element}
    {words : List Word} {forest : Forest},
      (matchElements (g.derive limit budget) (front ++ back) words).fault? = none →
        g.FitsEach forest front → forest.words ++ left = words →
        (matchElements (g.derive limit budget) back left).fault? = none
  | [], _, _, h, fits, taken => by
    cases fits
    rw [Forest.words, List.nil_append] at taken
    rw [taken]
    exact h
  | .terminal _ :: _, _, _, h, fits, taken => by
    cases fits with
    | word accepted fits =>
      subst taken
      rw [Forest.words, List.cons_append, List.cons_append, matchElements, if_pos accepted,
        Search.fault?_map] at h
      exact fault?_matchElements_behind h fits rfl
  | .symbol name :: front, words, _, h, fits, taken => by
    cases fits with
    | @tree _ head others _ first fits =>
      rw [List.cons_append, matchElements] at h
      obtain ⟨noFault, later⟩ := Search.fault?_bind_eq_none.mp h
      rw [Forest.words, List.append_assoc] at taken
      -- The search finds the first tree, so it matches the elements behind it on what it leaves.
      obtain ⟨value, derives⟩ := exists_derives_of_fits noFault first taken
      have found : (value, others.words ++ left) ∈ (g.derive limit budget name words).items :=
        (enumerates_derive noFault).mem_iff.mpr ⟨head, derives, taken⟩
      have matched := later _ found
      rw [Search.fault?_map] at matched
      exact fault?_matchElements_behind matched fits rfl

/-- A search without a fault has run all those nested in it, and none had a fault. -/
theorem Nests.fault?_eq_none (nests : g.Nests symbol words inner left)
    (noFault : (g.derive limit (budget + 1) symbol words).fault? = none) :
    (g.derive limit budget inner left).fault? = none := by
  obtain ⟨mem, split, fits, taken⟩ := nests
  unfold derive at noFault
  split at noFault
  · cases noFault
  · have tried := Search.fault?_each_eq_none.mp noFault _ mem
    obtain ⟨matched, -⟩ := Search.fault?_bind_eq_none.mp tried
    rw [split] at matched
    have behind := fault?_matchElements_behind matched fits taken
    rw [matchElements] at behind
    exact (Search.fault?_bind_eq_none.mp behind).1

/-! ### With a fault -/

/-- A fault met in matching elements is that of a symbol among them, behind a forest for
the elements in front of it. -/
theorem exists_of_fault?_matchElements {fault : SearchFault} : ∀ {elements : List Element}
    {words : List Word}, (matchElements (g.derive limit budget) elements words).fault? = some fault →
      ∃ front name rest forest left, elements = front ++ .symbol name :: rest ∧
        g.FitsEach forest front ∧ forest.words ++ left = words ∧
        (g.derive limit budget name left).fault? = some fault
  | [], _, h => by cases h
  | .terminal _ :: _, [], h => by cases h
  | .terminal terminal :: elements, word :: words, h => by
    unfold matchElements at h
    split at h
    · rename_i accepted
      rw [Search.fault?_map] at h
      obtain ⟨front, name, rest, forest, left, rfl, fits, rfl, faulty⟩ :=
        exists_of_fault?_matchElements h
      exact ⟨.terminal terminal :: front, name, rest, .word word forest, left, rfl,
        .word accepted fits, rfl, faulty⟩
    · cases h
  | .symbol name :: elements, words, h => by
    unfold matchElements at h
    rcases Search.fault?_of_bind h with here | ⟨⟨value, behind⟩, found, later⟩
    · exact ⟨[], name, elements, .nil, words, rfl, .nil, rfl, here⟩
    · rw [Search.fault?_map] at later
      obtain ⟨tree, derives, front⟩ := exists_derives_of_mem_derive found
      obtain ⟨others, inner, rest, forest, left, rfl, fits, rfl, faulty⟩ :=
        exists_of_fault?_matchElements later
      refine ⟨.symbol name :: others, inner, rest, .tree tree forest, left, rfl,
        .tree derives.fits fits, ?_, faulty⟩
      rw [Forest.words, List.append_assoc, front]

/-- The fault of a search is that the symbol has no rules, or the fault of a search
nested in it, or that the template of one of its rules fails on children that were found. -/
theorem fault?_derive_cases {fault : SearchFault}
    (h : (g.derive limit (budget + 1) symbol words).fault? = some fault) :
    (g.rulesOf symbol = [] ∧ fault = .undefinedSymbol symbol) ∨
      (∃ inner left, g.Nests symbol words inner left ∧
        (g.derive limit budget inner left).fault? = some fault) ∨
      ∃ rule ∈ g.rulesOf symbol, ∃ forest children cause, g.DerivesEach forest rule.rhs children ∧
        rule.template.build children = .error cause ∧ fault = .inRule rule cause := by
  unfold derive at h
  split at h
  · rename_i noRules
    cases h
    exact .inl ⟨noRules, rfl⟩
  · right
    obtain ⟨rule, mem, tried⟩ := Search.fault?_of_each h
    rcases Search.fault?_of_bind tried with matching | ⟨⟨children, behind⟩, matched, building⟩
    · left
      obtain ⟨front, inner, rest, forest, left, split, fits, taken, faulty⟩ :=
        exists_of_fault?_matchElements matching
      exact ⟨inner, left, .inside mem split fits taken, faulty⟩
    · right
      obtain ⟨forest, derived, -⟩ :=
        exists_derivesEach_of_mem_matchElements exists_derives_of_mem_derive matched
      dsimp only [buildBy] at building
      split at building
      · cases building
      · rename_i cause failed
        cases building
        exact ⟨rule, mem, forest, children, cause, derived, failed, rfl⟩

end Grammar
end ReversibleGrammar
