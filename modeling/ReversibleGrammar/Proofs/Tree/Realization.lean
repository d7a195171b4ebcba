/-
# Realization trees

A tree realizes a fragment for a symbol when each of its nodes is a rule whose
template takes the fragment apart, and each child realizes what its position is
given: a terminal its one word, a symbol a tree. A symbol whose position is unset
realizes null. The words of the tree are then a sentence for the fragment.

Key definitions: `Grammar.Realizes`.
Key theorems: `Grammar.Realizes.fits`.
-/
import ReversibleGrammar.Proofs.Grammar.WordClasses
import ReversibleGrammar.Proofs.Tree.Derivation
import ReversibleGrammar.Template.Decomposition

namespace ReversibleGrammar
namespace Grammar

mutual

/-- The tree is a way in which the symbol realizes the fragment. -/
inductive Realizes (g : Grammar) : Tree → String → Fragment → Prop
  | node {symbol : String} {position : Nat} {rule : Rule} {forest : Forest} {fragment : Fragment}
      {flat : Assignment} (ruleAt : (g.rulesOf symbol)[position]? = some rule)
      (apart : rule.template.decompose rule.rhs.length fragment = .ok flat)
      (realized : g.RealizesEach forest rule.rhs flat.places) :
      g.Realizes (.node position forest) symbol fragment

/-- The forest realizes what each position of a sequence of elements is given. -/
inductive RealizesEach (g : Grammar) : Forest → List Element → List (Option Fragment) → Prop
  | nil : g.RealizesEach .nil [] []
  | word {terminal : Terminal} {given : Option Fragment} {word : Word} {rest : Forest}
      {elements : List Element} {places : List (Option Fragment)}
      (realizes : terminal.realize given = .ok word)
      (realized : g.RealizesEach rest elements places) :
      g.RealizesEach (.word word rest) (.terminal terminal :: elements) (given :: places)
  | tree {name : String} {given : Option Fragment} {head : Tree} {rest : Forest}
      {elements : List Element} {places : List (Option Fragment)}
      (first : g.Realizes head name (given.getD (.value .null)))
      (realized : g.RealizesEach rest elements places) :
      g.RealizesEach (.tree head rest) (.symbol name :: elements) (given :: places)

end

variable {g : Grammar}

/-! ### What the forest of some elements looks like -/

theorem realizesEach_nil_iff {forest : Forest} : g.RealizesEach forest [] [] ↔ forest = .nil := by
  constructor
  · rintro ⟨⟩
    rfl
  · rintro rfl
    exact .nil

theorem realizesEach_terminal_iff {forest : Forest} {terminal : Terminal} {given : Option Fragment}
    {elements : List Element} {places : List (Option Fragment)} :
    g.RealizesEach forest (.terminal terminal :: elements) (given :: places) ↔
      ∃ word rest, forest = .word word rest ∧ terminal.realize given = .ok word ∧
        g.RealizesEach rest elements places := by
  constructor
  · rintro (_ | ⟨realizes, realized⟩)
    exact ⟨_, _, rfl, realizes, realized⟩
  · rintro ⟨word, rest, rfl, realizes, realized⟩
    exact .word realizes realized

theorem realizesEach_symbol_iff {forest : Forest} {name : String} {given : Option Fragment}
    {elements : List Element} {places : List (Option Fragment)} :
    g.RealizesEach forest (.symbol name :: elements) (given :: places) ↔
      ∃ head rest, forest = .tree head rest ∧ g.Realizes head name (given.getD (.value .null)) ∧
        g.RealizesEach rest elements places := by
  constructor
  · rintro (_ | _ | ⟨first, realized⟩)
    exact ⟨_, _, rfl, first, realized⟩
  · rintro ⟨head, rest, rfl, first, realized⟩
    exact .tree first realized

mutual

/-- A tree that realizes something is made of rules, and of words that their
terminals accept if all classes of words match. -/
theorem Realizes.fits (matching : ∀ c ∈ g.classes, c.Matching) :
    ∀ {tree : Tree} {symbol : String} {fragment : Fragment},
      g.Realizes tree symbol fragment → g.Fits tree symbol
  | _, _, _, .node ruleAt _ realized =>
    .node ruleAt (realized.fits matching (rhs_subset_elements (mem_rules_of_ruleAt ruleAt)))

theorem RealizesEach.fits (matching : ∀ c ∈ g.classes, c.Matching) :
    ∀ {forest : Forest} {elements : List Element} {places : List (Option Fragment)},
      g.RealizesEach forest elements places → elements ⊆ g.elements → g.FitsEach forest elements
  | _, _, _, .nil, _ => .nil
  | _, _, _, .word realizes realized, sub => by
    obtain ⟨occurs, others⟩ := List.cons_subset.mp sub
    exact .word (accepts_of_realize matching occurs realizes) (realized.fits matching others)
  | _, _, _, .tree first realized, sub =>
    .tree (first.fits matching) (realized.fits matching (List.cons_subset.mp sub).2)

end

end Grammar
end ReversibleGrammar
