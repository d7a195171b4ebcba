/-
# References between symbols

A symbol refers to those that stand in its rules, and reaches all that some references
lead to. A grammar is complete exactly when nothing refers to a symbol that is not
defined, whatever the order of the rules is.

Key definitions: `Grammar.RefersTo`, `Grammar.Reaches`.
Key theorems: `Grammar.complete_iff`, `Grammar.Complete.of_perm`.
-/
import Mathlib.Logic.Relation
import Mathlib.Tactic.ByContra
import ReversibleGrammar.Grammar.Loading

namespace ReversibleGrammar

theorem NameSet.eq_empty_iff {set : NameSet} : set = .empty ↔ ∀ name, name ∉ set := by
  constructor
  · rintro rfl name mem
    cases mem
  · intro none
    obtain ⟨names, ascending⟩ := set
    obtain rfl : names = [] := List.eq_nil_iff_forall_not_mem.mpr none
    rfl

namespace Grammar

variable {g : Grammar} {name other : String}

/-- A rule of the first symbol has the second one among its elements. -/
def RefersTo (g : Grammar) (name other : String) : Prop :=
  ∃ rule ∈ g.rulesOf name, Element.symbol other ∈ rule.rhs

/-- Some references, or none, lead from the first symbol to the second. -/
abbrev Reaches (g : Grammar) : String → String → Prop :=
  Relation.ReflTransGen g.RefersTo

/-- In a complete grammar every symbol that stands in a rule is defined. -/
theorem complete_iff :
    g.Complete ↔ ∀ rule ∈ g.rules, ∀ name, Element.symbol name ∈ rule.rhs → name ∈ g.defined := by
  constructor
  · intro complete rule mem name element
    by_contra undefined
    have missing : name ∈ g.missing :=
      mem_missing.mpr ⟨mem_referenced.mpr ⟨rule, mem, element⟩, undefined⟩
    rw [complete] at missing
    cases missing
  · intro closed
    apply NameSet.eq_empty_iff.mpr
    intro name missing
    obtain ⟨referenced, undefined⟩ := mem_missing.mp missing
    obtain ⟨rule, mem, element⟩ := mem_referenced.mp referenced
    exact undefined (closed rule mem name element)

theorem RefersTo.mem_defined (complete : g.Complete) (refers : g.RefersTo name other) :
    other ∈ g.defined := by
  obtain ⟨rule, mem, element⟩ := refers
  exact complete_iff.mp complete rule (mem_rulesOf.mp mem).1 other element

/-- The order of the rules does not matter to completeness. -/
theorem Complete.of_perm {rules rules' : List Rule} (perm : rules.Perm rules')
    (complete : Complete ⟨rules⟩) : Complete ⟨rules'⟩ := by
  rw [complete_iff] at complete ⊢
  intro rule mem name element
  obtain ⟨definition, mem', named⟩ :=
    mem_defined.mp (complete rule (perm.mem_iff.mpr mem) name element)
  exact mem_defined.mpr ⟨definition, perm.mem_iff.mp mem', named⟩

end Grammar
end ReversibleGrammar
