/-
# Templates that always build

Building fails in three ways only: a slot names a child that is not there, or an
attribute that its child does not carry, or the tail of a list is not a list. A
template that can do none of them builds a value from any children.

Key definitions: `Template.Total`.
Key theorems: `Template.Total.exists_build`.
-/
import ReversibleGrammar.Proofs.Template.Building
import ReversibleGrammar.Proofs.Template.Parts

namespace ReversibleGrammar
namespace Template

/-- The slots name only the first `width` children and no attributes, and no list has a tail. -/
structure Total (t : Template) (width : Nat) : Prop where
  inside : ∀ index ∈ t.indexes, index < width
  attributeFree : t.AttributeFree
  tailFree : ∀ part ∈ t.parts, part.tails = []

instance (t : Template) (width : Nat) : Decidable (t.Total width) :=
  decidable_of_iff
    ((∀ index ∈ t.indexes, index < width) ∧ t.AttributeFree ∧ ∀ part ∈ t.parts, part.tails = [])
    ⟨fun ⟨inside, plain, tailFree⟩ => ⟨inside, plain, tailFree⟩,
      fun h => ⟨h.inside, h.attributeFree, h.tailFree⟩⟩

theorem Total.of_subset {t u : Template} {width : Nat} (h : Total u width)
    (sub : t.parts ⊆ u.parts) : Total t width where
  inside index named := h.inside index (indexes_subset sub named)
  attributeFree := h.attributeFree.of_subset sub
  tailFree part mem := h.tailFree part (sub mem)

/-- A total template builds a value from any children that are as many as it expects. -/
theorem Total.exists_build {children : List Value} {t : Template} :
    t.Total children.length → ∃ value, t.build children = .ok value := by
  induction t using partInduction with
  | empty =>
    intro _
    exact ⟨.null, by rw [build]⟩
  | slot index attr =>
    intro total
    have inside : index < children.length := total.inside index (mem_indexes_slot index attr)
    obtain rfl : attr = none := total.attributeFree _ (mem_parts_self _)
    refine ⟨children[index], ?_⟩
    rw [build, pick_none_eq_ok_iff]
    exact List.getElem?_eq_getElem inside
  | record tag fields ih =>
    intro total
    have each : ∀ field ∈ fields, ∃ value, buildField children field = .ok value := by
      intro field mem
      cases field with
      | computed name t =>
        rw [buildField]
        exact ih name t mem (total.of_subset (parts_subset_record mem))
      | fixed name value => exact ⟨value, by rw [buildField]⟩
    obtain ⟨made, builds⟩ := exists_buildFields FieldMap.empty each
    refine ⟨.record tag made, ?_⟩
    rw [build, builds]
    rfl
  | list heads tails ih _ =>
    intro total
    obtain rfl : tails = [] := total.tailFree _ (mem_parts_self _)
    have each : ∀ head ∈ heads, ∃ value, build children head = .ok value := by
      intro head mem
      exact ih head mem (total.of_subset (parts_subset_heads mem))
    obtain ⟨items, builds⟩ := exists_forall₂ each
    exact ⟨_, build_list_eq_ok_iff.mpr ⟨items, [], rfl, builds, .nil⟩⟩

end Template
end ReversibleGrammar
