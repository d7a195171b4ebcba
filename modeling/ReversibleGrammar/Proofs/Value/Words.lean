/-
# The words of a value

The words that occur in a value, at any depth of its lists and records. They are all that a
value holds of a sentence, and no part of a value has words that the value has not.

Key definitions: `Value.words`, `Fragment.words`.
Key theorems: `Value.words_list_subset_iff`, `Value.words_record_subset_iff`,
`Fragment.words_fields_subset_iff`.
-/
import ReversibleGrammar.Fragment

namespace ReversibleGrammar

namespace Value

mutual

/-- The words that occur in a value. -/
def words : Value → List Word
  | word w => [w]
  | list items => wordsOfItems items
  | record _ fields => wordsOfFields fields
  | _ => []

/-- The words that occur in some values. -/
def wordsOfItems : List Value → List Word
  | [] => []
  | v :: vs => words v ++ wordsOfItems vs

/-- The words that occur in the fields of a chain. -/
def wordsOfFields {lo : Option String} : FieldChain Value lo → List Word
  | .nil => []
  | .cons _ _ v rest => words v ++ wordsOfFields rest

end

variable {ws : List Word}

theorem wordsOfItems_subset_iff {items : List Value} :
    wordsOfItems items ⊆ ws ↔ ∀ v ∈ items, v.words ⊆ ws := by
  induction items with
  | nil => simp [wordsOfItems]
  | cons v vs ih => rw [wordsOfItems, List.append_subset, ih, List.forall_mem_cons]

theorem wordsOfFields_subset_iff_toList : ∀ {lo : Option String} {fields : FieldChain Value lo},
    wordsOfFields fields ⊆ ws ↔ ∀ field ∈ fields.toList, field.2.words ⊆ ws
  | _, .nil => by simp [wordsOfFields, FieldChain.toList]
  | _, .cons name above v rest => by
    rw [wordsOfFields, FieldChain.toList, List.append_subset, wordsOfFields_subset_iff_toList,
      List.forall_mem_cons]

theorem wordsOfFields_subset_iff {lo : Option String} {fields : FieldChain Value lo} :
    wordsOfFields fields ⊆ ws ↔ ∀ name v, fields.get? name = some v → v.words ⊆ ws := by
  rw [wordsOfFields_subset_iff_toList]
  constructor
  · intro each name v found
    exact each (name, v) ((FieldChain.mem_toList fields).mpr found)
  · intro each field mem
    exact each field.1 field.2 ((FieldChain.mem_toList fields).mp mem)

theorem words_list_subset_iff {items : List Value} :
    (list items).words ⊆ ws ↔ ∀ v ∈ items, v.words ⊆ ws := by
  rw [words, wordsOfItems_subset_iff]

theorem words_record_subset_iff {tag : String} {fields : FieldMap Value} :
    (record tag fields).words ⊆ ws ↔ ∀ name v, fields.get? name = some v → v.words ⊆ ws := by
  rw [words, wordsOfFields_subset_iff]

/-- A field of a value has none but words of the value. -/
theorem words_subset_of_field? {v held : Value} {name : String} (found : v.field? name = some held) :
    held.words ⊆ v.words := by
  cases v with
  | record tag fields =>
    exact words_record_subset_iff.mp (List.Subset.refl _) name held found
  | _ => cases found

end Value

namespace Fragment

/-- The words that occur in a fragment. -/
def words : Fragment → List Word
  | value v => v.words
  | fields part => Value.wordsOfFields part

theorem words_fields_subset_iff {part : PartialRecord} {ws : List Word} :
    (fields part).words ⊆ ws ↔ ∀ name v, part.get? name = some v → v.words ⊆ ws := by
  rw [words, Value.wordsOfFields_subset_iff]

end Fragment

end ReversibleGrammar
