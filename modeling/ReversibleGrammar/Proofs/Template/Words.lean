/-
# Words pass through templates

A template moves words and makes none. What it builds has words of the children and of the
values that the template fixes, and no others. What it takes a fragment apart into has words
of the fragment only, for fixed fields are compared and not handed on.

Key definitions: `Template.fixedValues`.
Key theorems: `Template.words_subset_of_build`, `Template.words_subset_of_decompose`.
-/
import ReversibleGrammar.Proofs.Template.Building
import ReversibleGrammar.Proofs.Template.Gathering
import ReversibleGrammar.Proofs.Value.Words

namespace ReversibleGrammar

/-- The value of a fixed field. -/
def Field.fixedValue? : Field → Option Value
  | fixed _ value => some value
  | computed _ _ => none

namespace Template

/-- The values that a record template fixes in its own fields. -/
def ownFixedValues : Template → List Value
  | record _ fields => fields.filterMap Field.fixedValue?
  | _ => []

/-- The values that a template fixes, at any depth. -/
def fixedValues (t : Template) : List Value :=
  t.parts.flatMap ownFixedValues

theorem fixedValues_subset {t u : Template} (sub : t.parts ⊆ u.parts) :
    t.fixedValues ⊆ u.fixedValues := by
  intro v mem
  obtain ⟨part, there, fixes⟩ := List.mem_flatMap.mp mem
  exact List.mem_flatMap.mpr ⟨part, sub there, fixes⟩

theorem mem_fixedValues_record {tag name : String} {fields : List Field} {v : Value}
    (mem : .fixed name v ∈ fields) : v ∈ fixedValues (record tag fields) :=
  List.mem_flatMap.mpr ⟨_, mem_parts_self _, List.mem_filterMap.mpr ⟨_, mem, rfl⟩⟩

variable {ws : List Word}

/-! ### Building -/

section Building

variable {children : List Value}

theorem words_subset_of_pick (ofChildren : ∀ child ∈ children, child.words ⊆ ws) {index : Nat}
    {attr : Option String} {v : Value} (h : pick children index attr = .ok v) : v.words ⊆ ws := by
  cases attr with
  | none => exact ofChildren v (List.mem_of_getElem? (pick_none_eq_ok_iff.mp h))
  | some attr =>
    obtain ⟨child, isChild, isField⟩ := pick_some_eq_ok_iff.mp h
    have ofChild : child.words ⊆ ws := ofChildren child (List.mem_of_getElem? isChild)
    exact List.Subset.trans (Value.words_subset_of_field? isField) ofChild

/-- A built field was built by a field of the template, or was there before. -/
theorem of_get?_buildFields {key : String} {v : Value} : ∀ {fields : List Field}
    {built made : FieldMap Value}, buildFields children fields built = .ok made →
      made.get? key = some v →
        (∃ field ∈ fields, buildField children field = .ok v) ∨ built.get? key = some v
  | [], _, _, h, found => by
    rw [buildFields] at h
    cases h
    exact .inr found
  | field :: rest, built, made, h, found => by
    rw [buildFields] at h
    obtain ⟨value, builds, h⟩ := bind_eq_ok_iff.mp h
    rcases of_get?_buildFields h found with ⟨other, mem, buildsOther⟩ | before
    · exact .inl ⟨other, List.mem_cons_of_mem _ mem, buildsOther⟩
    · rw [FieldMap.get?_put] at before
      split at before
      · cases before
        exact .inl ⟨field, List.mem_cons_self, builds⟩
      · exact .inr before

/-- What a template builds has no words but those of the children and of its fixed values. -/
theorem words_subset_of_build (ofChildren : ∀ child ∈ children, child.words ⊆ ws) {t : Template} :
    (∀ fixed ∈ t.fixedValues, fixed.words ⊆ ws) → ∀ {v : Value}, t.build children = .ok v →
      v.words ⊆ ws := by
  induction t using partInduction with
  | empty =>
    intro _ v h
    rw [build] at h
    cases h
    exact List.nil_subset ws
  | slot index attr =>
    intro _ v h
    rw [build] at h
    exact words_subset_of_pick ofChildren h
  | record tag fields ih =>
    intro ofFixed v h
    rw [build] at h
    obtain ⟨made, builds, same⟩ := bind_eq_ok_iff.mp h
    cases same
    refine Value.words_record_subset_iff.mpr fun key value found => ?_
    rcases of_get?_buildFields builds found with ⟨field, mem, builds⟩ | none
    · cases field with
      | computed name t =>
        rw [buildField] at builds
        refine ih name t mem (fun fixed isFixed => ofFixed fixed ?_) builds
        exact fixedValues_subset (parts_subset_record mem) isFixed
      | fixed name value =>
        rw [buildField] at builds
        cases builds
        exact ofFixed _ (mem_fixedValues_record mem)
    · rw [FieldMap.get?_empty] at none
      cases none
  | list heads tails ihHeads ihTails =>
    intro ofFixed v h
    obtain ⟨items, lists, rfl, eachHead, eachTail⟩ := build_list_eq_ok_iff.mp h
    refine Value.words_list_subset_iff.mpr fun value mem => ?_
    rcases List.mem_append.mp mem with mem | mem
    · obtain ⟨t, isHead, builds⟩ := exists_mem_of_forall₂ eachHead mem
      refine ihHeads t isHead (fun fixed isFixed => ofFixed fixed ?_) builds
      exact fixedValues_subset (parts_subset_heads isHead) isFixed
    · obtain ⟨l, isList, mem⟩ := List.mem_flatten.mp mem
      obtain ⟨t, isTail, builds⟩ := exists_mem_of_forall₂ eachTail isList
      have ofTail : (Value.list l).words ⊆ ws := by
        refine ihTails t isTail (fun fixed isFixed => ofFixed fixed ?_) builds
        exact fixedValues_subset (parts_subset_tails isTail) isFixed
      exact Value.words_list_subset_iff.mp ofTail value mem

end Building

/-! ### Taking apart -/

theorem hereditary_words (ws : List Word) : Hereditary fun fragment => fragment.words ⊆ ws where
  field {tag held name v} fit found := by
    have ofRecord : (Value.record tag held).words ⊆ ws := fit
    exact Value.words_record_subset_iff.mp ofRecord name v found
  entry {_ name v} fit found := Fragment.words_fields_subset_iff.mp fit name v found
  item {_ v} fit mem := Value.words_list_subset_iff.mp fit v mem
  rest fit := Value.words_list_subset_iff.mpr fun v mem =>
    Value.words_list_subset_iff.mp fit v (List.mem_append_right _ mem)

theorem words_merge_subset {a b : PartialRecord} (ha : (Fragment.fields a).words ⊆ ws)
    (hb : (Fragment.fields b).words ⊆ ws) :
    (Fragment.fields (FieldMap.merge a b)).words ⊆ ws := by
  refine Fragment.words_fields_subset_iff.mpr fun name v found => ?_
  rw [FieldMap.get?_merge] at found
  rcases Option.or_eq_some_iff.mp found with found | ⟨-, found⟩
  · exact Fragment.words_fields_subset_iff.mp hb name v found
  · exact Fragment.words_fields_subset_iff.mp ha name v found

/-- No position is given words but those of the fragment that is taken apart. -/
theorem words_subset_of_decompose {width : Nat} {t : Template} {fragment : Fragment}
    {flat : Assignment} (h : t.decompose width fragment = .ok flat) :
    ∀ i given, flat.get? i = some given → given.words ⊆ fragment.words := by
  refine of_decompose (P := fun flat => ∀ i given, flat.get? i = some given → given.words ⊆ _)
    _ (hereditary_words fragment.words) (Assignment.forall_of_union words_merge_subset)
    (Assignment.forall_blank width) ?_ (List.Subset.refl _) h
  intro index attr _ given flat sub h
  cases attr with
  | none => exact Assignment.forall_of_single (decompose_bare_eq_ok_iff.mp h) sub
  | some attr =>
    obtain ⟨v, rfl, placed⟩ := decompose_attribute_eq_ok_iff.mp h
    refine Assignment.forall_of_single placed (Fragment.words_fields_subset_iff.mpr ?_)
    intro name held found
    rw [FieldMap.get?_single] at found
    split at found
    · cases found
      exact sub
    · cases found

end Template
end ReversibleGrammar
