/-
# The slots of a template

A slot names a child of the rule, or an attribute of a child, and a template may name the
same child several times. The slots of a record are those of its computed fields, one
after the other, and the slots of a list are those of its heads and then of its tails; each
slot is counted as often as it stands in the template.

Key definitions: `Template.slots`, `Field.slots`, `Field.indexes`.
Key theorems: `Template.mem_slots`, `Template.slots_record`, `Template.slots_list`,
`Template.indexes_record`, `Template.indexes_list`.
-/
import ReversibleGrammar.Proofs.Template.Parts

namespace ReversibleGrammar

namespace Template

/-- The index and the attribute that a slot names. -/
def slot? : Template → Option (Nat × Option String)
  | slot index attr => some (index, attr)
  | _ => none

/-- The slots of a template, in order. -/
def slots (t : Template) : List (Nat × Option String) :=
  t.parts.filterMap slot?

end Template

/-- The slots of a field; a fixed one has none. -/
def Field.slots : Field → List (Nat × Option String)
  | computed _ t => t.slots
  | fixed _ _ => []

/-- The indexes that the slots in a field name; a fixed field has none. -/
def Field.indexes : Field → List Nat
  | computed _ t => t.indexes
  | fixed _ _ => []

namespace Template

theorem slot?_eq_some_iff {t : Template} {index : Nat} {attr : Option String} :
    t.slot? = some (index, attr) ↔ t = slot index attr := by
  cases t <;> simp [slot?]

theorem mem_slots {t : Template} {index : Nat} {attr : Option String} :
    (index, attr) ∈ t.slots ↔ slot index attr ∈ t.parts := by
  simp [slots, slot?_eq_some_iff]

theorem filterMap_partsOfFields : ∀ fields : List Field,
    (partsOfFields fields).filterMap slot? = fields.flatMap Field.slots
  | [] => by simp [partsOfFields]
  | .computed _ t :: rest => by
    rw [partsOfFields, partsOfField, List.filterMap_append, filterMap_partsOfFields rest,
      List.flatMap_cons, Field.slots, slots]
  | .fixed _ _ :: rest => by
    rw [partsOfFields, partsOfField, List.nil_append, filterMap_partsOfFields rest,
      List.flatMap_cons, Field.slots, List.nil_append]

theorem filterMap_partsOfEach : ∀ ts : List Template,
    (partsOfEach ts).filterMap slot? = ts.flatMap slots
  | [] => by simp [partsOfEach]
  | t :: rest => by
    rw [partsOfEach, List.filterMap_append, filterMap_partsOfEach rest, List.flatMap_cons, slots]

theorem slots_slot (index : Nat) (attr : Option String) :
    (slot index attr).slots = [(index, attr)] := rfl

theorem slots_record (tag : String) (fields : List Field) :
    slots (record tag fields) = fields.flatMap Field.slots := by
  rw [slots, parts, List.filterMap_cons_none rfl, filterMap_partsOfFields]

theorem slots_list (heads tails : List Template) :
    slots (list heads tails) = (heads ++ tails).flatMap slots := by
  rw [slots, parts, List.filterMap_cons_none rfl, List.filterMap_append, filterMap_partsOfEach,
    filterMap_partsOfEach, List.flatMap_append]

/-! ### The indexes that they name -/

theorem indexes_eq (t : Template) : t.indexes = t.slots.map Prod.fst := by
  rw [indexes, slots, List.map_filterMap]
  congr
  funext part
  cases part <;> rfl

theorem indexes_record (tag : String) (fields : List Field) :
    indexes (record tag fields) = fields.flatMap Field.indexes := by
  rw [indexes_eq, slots_record, List.map_flatMap]
  congr
  funext field
  cases field with
  | computed _ t => exact t.indexes_eq.symm
  | fixed => rfl

theorem indexes_list (heads tails : List Template) :
    indexes (list heads tails) = (heads ++ tails).flatMap indexes := by
  rw [indexes_eq, slots_list, List.map_flatMap]
  simp only [← indexes_eq]

end Template
end ReversibleGrammar
