/-
# Names of field maps

The names of a field map ascend, and they are as many as its fields, so a map that is
known to have some distinct names has no others exactly when it has as many fields.

Key definitions: `FieldChain.names`.
Key theorems: `FieldChain.mem_names`, `FieldChain.names_ascending`,
`FieldChain.size_eq_length_iff`.
-/
import Mathlib.Data.List.Perm.Subperm
import ReversibleGrammar.FieldMap

namespace ReversibleGrammar
namespace FieldChain

variable {α : Type} {lo : Option String}

/-- The names of the fields, in ascending order. -/
def names (fields : FieldChain α lo) : List String :=
  fields.toList.map Prod.fst

theorem mem_names {fields : FieldChain α lo} {key : String} :
    key ∈ fields.names ↔ ∃ value, fields.get? key = some value := by
  simp [names, ← mem_toList]

theorem length_names (fields : FieldChain α lo) : fields.names.length = fields.size := by
  rw [names, List.length_map, length_toList]

/-- The names of a map ascend. -/
theorem names_ascending : ∀ {lo : Option String} (fields : FieldChain α lo),
    fields.names.Pairwise (· < ·)
  | _, .nil => .nil
  | _, .cons name above value rest => by
    refine List.pairwise_cons.mpr ⟨fun other mem => ?_, names_ascending rest⟩
    obtain ⟨held, h⟩ := mem_names.mp mem
    by_contra below
    rw [get?_eq_none_of_not_above rest below] at h
    cases h

theorem names_nodup (fields : FieldChain α lo) : fields.names.Nodup :=
  (names_ascending fields).imp String.ne_of_lt

/-- Among maps that have some distinct names, those with no others are those with as
many fields. -/
theorem size_eq_length_iff {fields : FieldChain α lo} {known : List String}
    (distinct : known.Nodup) (has : ∀ name ∈ known, ∃ value, fields.get? name = some value) :
    fields.size = known.length ↔ ∀ key value, fields.get? key = some value → key ∈ known := by
  have sub : known.Subperm fields.names :=
    distinct.subperm fun name mem => mem_names.mpr (has name mem)
  rw [← length_names]
  constructor
  · intro sameSize key value h
    rw [(sub.perm_of_length_le (Nat.le_of_eq sameSize)).mem_iff]
    exact mem_names.mpr ⟨value, h⟩
  · intro only
    have sub' : fields.names.Subperm known := by
      refine (names_nodup fields).subperm fun key mem => ?_
      obtain ⟨value, h⟩ := mem_names.mp mem
      exact only key value h
    exact Nat.le_antisymm sub'.length_le sub.length_le

end FieldChain

namespace FieldMap

variable {α : Type}

theorem get?_empty (key : String) : (empty : FieldMap α).get? key = none := rfl

theorem get?_single (name key : String) (value : α) :
    (single name value).get? key = if name = key then some value else none := rfl

end FieldMap

end ReversibleGrammar
