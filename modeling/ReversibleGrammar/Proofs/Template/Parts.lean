/-
# Parts of templates

The parts of a template are itself and the templates nested in it, in the
computed fields of records and among the heads and tails of lists. What is asked
of a template is mostly asked of each of its parts: that a record has no two
fields of one name, that a list has one tail at most, that no slot names an
attribute.

Key definitions: `Template.parts`, `Template.Regular`, `Template.AttributeFree`,
`Template.indexes`.
Key theorems: `Template.partInduction`, `Template.mem_parts_record`,
`Template.mem_parts_list`.
-/
import ReversibleGrammar.Template

namespace ReversibleGrammar
namespace Template

/-- Induction over what is nested in a template. -/
@[elab_as_elim]
theorem partInduction {motive : Template → Prop} (empty : motive .empty)
    (slot : ∀ index attr, motive (.slot index attr))
    (record : ∀ tag fields, (∀ name t, .computed name t ∈ fields → motive t) →
      motive (.record tag fields))
    (list : ∀ heads tails, (∀ t ∈ heads, motive t) → (∀ t ∈ tails, motive t) →
      motive (.list heads tails)) : ∀ t, motive t
  | .empty => empty
  | .slot index attr => slot index attr
  | .record tag fields => record tag fields fun name t mem =>
    have : sizeOf (Field.computed name t) < sizeOf fields := List.sizeOf_lt_of_mem mem
    partInduction empty slot record list t
  | .list heads tails => list heads tails
    (fun t mem =>
      have : sizeOf t < sizeOf heads := List.sizeOf_lt_of_mem mem
      partInduction empty slot record list t)
    (fun t mem =>
      have : sizeOf t < sizeOf tails := List.sizeOf_lt_of_mem mem
      partInduction empty slot record list t)
termination_by t => sizeOf t
decreasing_by
  all_goals simp_all
  all_goals omega

mutual

/-- The template and all that are nested in it. -/
def parts : Template → List Template
  | empty => [empty]
  | slot index attr => [slot index attr]
  | record tag fields => record tag fields :: partsOfFields fields
  | list heads tails => list heads tails :: (partsOfEach heads ++ partsOfEach tails)

/-- The parts of the computed ones of some fields. -/
def partsOfFields : List Field → List Template
  | [] => []
  | field :: rest => partsOfField field ++ partsOfFields rest

/-- The parts of a field; a fixed one has none. -/
def partsOfField : Field → List Template
  | .computed _ t => parts t
  | .fixed _ _ => []

/-- The parts of some templates. -/
def partsOfEach : List Template → List Template
  | [] => []
  | t :: rest => parts t ++ partsOfEach rest

end

/-- The names of the fields of a record template. -/
def fieldNames : Template → List String
  | record _ fields => fields.map Field.name
  | _ => []

/-- The tails of a list template. -/
def tails : Template → List Template
  | list _ tails => tails
  | _ => []

/-- The index that a slot names. -/
def index? : Template → Option Nat
  | slot index _ => some index
  | _ => none

/-- The attribute that a slot names. -/
def attribute? : Template → Option String
  | slot _ attr => attr
  | _ => none

/-- No record has two fields of one name, and no list has several tails. -/
structure Regular (t : Template) : Prop where
  distinctNames : ∀ part ∈ t.parts, part.fieldNames.Nodup
  oneTail : ∀ part ∈ t.parts, part.tails.length ≤ 1

/-- No slot names an attribute. -/
def AttributeFree (t : Template) : Prop :=
  ∀ part ∈ t.parts, part.attribute? = none

instance (t : Template) : Decidable t.Regular :=
  decidable_of_iff
    ((∀ part ∈ t.parts, part.fieldNames.Nodup) ∧ ∀ part ∈ t.parts, part.tails.length ≤ 1)
    ⟨fun h => ⟨h.1, h.2⟩, fun h => ⟨h.distinctNames, h.oneTail⟩⟩

instance (t : Template) : Decidable t.AttributeFree :=
  inferInstanceAs (Decidable (∀ part ∈ t.parts, part.attribute? = none))

/-- The indexes that the slots of a template name. -/
def indexes (t : Template) : List Nat :=
  t.parts.filterMap index?

/-! ### Membership -/

theorem mem_parts_self : ∀ t : Template, t ∈ t.parts
  | empty => List.mem_singleton_self _
  | slot _ _ => List.mem_singleton_self _
  | record _ _ => List.mem_cons_self
  | list _ _ => List.mem_cons_self

theorem mem_partsOfFields {part : Template} : ∀ {fields : List Field},
    part ∈ partsOfFields fields ↔ ∃ name t, .computed name t ∈ fields ∧ part ∈ t.parts
  | [] => by simp [partsOfFields]
  | .computed name t :: rest => by
    rw [partsOfFields, partsOfField, List.mem_append, mem_partsOfFields]
    simp only [List.mem_cons, Field.computed.injEq]
    constructor
    · rintro (here | ⟨name', t', mem, there⟩)
      · exact ⟨name, t, .inl ⟨rfl, rfl⟩, here⟩
      · exact ⟨name', t', .inr mem, there⟩
    · rintro ⟨name', t', ⟨rfl, rfl⟩ | mem, there⟩
      · exact .inl there
      · exact .inr ⟨name', t', mem, there⟩
  | .fixed _ _ :: rest => by
    rw [partsOfFields, partsOfField, List.nil_append, mem_partsOfFields]
    simp

theorem mem_partsOfEach {part : Template} : ∀ {ts : List Template},
    part ∈ partsOfEach ts ↔ ∃ t ∈ ts, part ∈ t.parts
  | [] => by simp [partsOfEach]
  | t :: rest => by simp [partsOfEach, mem_partsOfEach]

theorem mem_parts_record {part : Template} {tag : String} {fields : List Field} :
    part ∈ parts (.record tag fields) ↔
      part = .record tag fields ∨ ∃ name t, .computed name t ∈ fields ∧ part ∈ t.parts := by
  rw [parts, List.mem_cons, mem_partsOfFields]

theorem mem_parts_list {part : Template} {heads tails : List Template} :
    part ∈ parts (.list heads tails) ↔
      part = .list heads tails ∨ (∃ t ∈ heads, part ∈ t.parts) ∨ ∃ t ∈ tails, part ∈ t.parts := by
  rw [parts, List.mem_cons, List.mem_append, mem_partsOfEach, mem_partsOfEach]

theorem parts_subset_record {name tag : String} {t : Template} {fields : List Field}
    (mem : .computed name t ∈ fields) : t.parts ⊆ parts (.record tag fields) := fun _ there =>
  mem_parts_record.mpr (.inr ⟨name, t, mem, there⟩)

theorem parts_subset_heads {t : Template} {heads tails : List Template} (mem : t ∈ heads) :
    t.parts ⊆ parts (.list heads tails) := fun _ there =>
  mem_parts_list.mpr (.inr (.inl ⟨t, mem, there⟩))

theorem parts_subset_tails {t : Template} {heads tails : List Template} (mem : t ∈ tails) :
    t.parts ⊆ parts (.list heads tails) := fun _ there =>
  mem_parts_list.mpr (.inr (.inr ⟨t, mem, there⟩))

theorem mem_indexes {t : Template} {i : Nat} :
    i ∈ t.indexes ↔ ∃ part ∈ t.parts, part.index? = some i :=
  List.mem_filterMap

theorem indexes_subset {t u : Template} (sub : t.parts ⊆ u.parts) : t.indexes ⊆ u.indexes :=
  List.filterMap_subset index? sub

theorem mem_indexes_slot (index : Nat) (attr : Option String) : index ∈ (slot index attr).indexes :=
  mem_indexes.mpr ⟨_, mem_parts_self _, rfl⟩

theorem mem_indexes_record {tag : String} {fields : List Field} {i : Nat} :
    i ∈ indexes (.record tag fields) ↔ ∃ name t, .computed name t ∈ fields ∧ i ∈ t.indexes := by
  simp only [mem_indexes]
  refine ⟨fun ⟨part, mem, named⟩ => ?_, fun ⟨name, t, mem, part, there, named⟩ => ?_⟩
  · rcases mem_parts_record.mp mem with rfl | ⟨name, t, mem, there⟩
    · cases named
    · exact ⟨name, t, mem, part, there, named⟩
  · exact ⟨part, parts_subset_record mem there, named⟩

theorem mem_indexes_list {heads tails : List Template} {i : Nat} :
    i ∈ indexes (.list heads tails) ↔ (∃ t ∈ heads, i ∈ t.indexes) ∨ ∃ t ∈ tails, i ∈ t.indexes := by
  simp only [mem_indexes]
  refine ⟨fun ⟨part, mem, named⟩ => ?_, fun h => ?_⟩
  · rcases mem_parts_list.mp mem with rfl | ⟨t, mem, there⟩ | ⟨t, mem, there⟩
    · cases named
    · exact .inl ⟨t, mem, part, there, named⟩
    · exact .inr ⟨t, mem, part, there, named⟩
  · rcases h with ⟨t, mem, part, there, named⟩ | ⟨t, mem, part, there, named⟩
    · exact ⟨part, parts_subset_heads mem there, named⟩
    · exact ⟨part, parts_subset_tails mem there, named⟩

theorem Regular.of_subset {t u : Template} (h : Regular u) (sub : t.parts ⊆ u.parts) : Regular t :=
  ⟨fun part mem => h.distinctNames part (sub mem), fun part mem => h.oneTail part (sub mem)⟩

theorem AttributeFree.of_subset {t u : Template} (h : AttributeFree u) (sub : t.parts ⊆ u.parts) :
    AttributeFree t := fun part mem => h part (sub mem)

theorem Regular.names_nodup {tag : String} {fields : List Field}
    (h : Regular (.record tag fields)) : (fields.map Field.name).Nodup :=
  h.distinctNames _ (mem_parts_self _)

theorem Regular.length_tails_le {heads tails : List Template} (h : Regular (.list heads tails)) :
    tails.length ≤ 1 :=
  h.oneTail _ (mem_parts_self _)

end Template
end ReversibleGrammar
