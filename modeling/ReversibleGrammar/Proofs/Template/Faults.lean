/-
# How templates fail

Building fails in three ways, each at a part of the template: a slot names a child that
is not there, or an attribute that its child does not carry, or the tail of a list builds
something that is not a list. Taking apart has mismatches, which are no faults, and fails in
three ways: a slot names a position that the rule does not have, or two contents of
one position differ, or two partial records at one position share a key. Such a
position is one that a slot of the template names.

Key definitions: `Template.BuildFault`, `Template.DecomposeFault`.
Key theorems: `Template.buildFault_of_build`, `Template.decomposeFault_of_decompose`.
-/
import ReversibleGrammar.Proofs.Assignment.Conflicts
import ReversibleGrammar.Proofs.Template.Building
import ReversibleGrammar.Proofs.Template.Gathering

namespace ReversibleGrammar
namespace Template

/-! ### Building -/

/-- What the template is found at fault for when it is applied to the children. -/
inductive BuildFault (children : List Value) (t : Template) : TemplateFault → Prop
  | noChild {index : Nat} (named : index ∈ t.indexes) (outside : children.length ≤ index) :
      BuildFault children t (.noChild index children.length)
  | noAttribute {index : Nat} {attr : String} {child : Value}
      (mem : slot index (some attr) ∈ t.parts) (there : children[index]? = some child)
      (lacks : child.field? attr = none) :
      BuildFault children t (.noAttribute attr child)
  | tailNotList {part tail : Template} {value : Value} (mem : part ∈ t.parts)
      (isTail : tail ∈ part.tails) (builds : tail.build children = .ok value)
      (notList : ∀ items, value ≠ .list items) :
      BuildFault children t (.tailNotList value)

variable {children : List Value} {cause : TemplateFault} {t u : Template}

/-- The faults of a part are faults of the whole. -/
theorem BuildFault.of_subset (fault : BuildFault children t cause) (sub : t.parts ⊆ u.parts) :
    BuildFault children u cause := by
  cases fault with
  | noChild named outside => exact .noChild (indexes_subset sub named) outside
  | noAttribute mem there lacks => exact .noAttribute (sub mem) there lacks
  | tailNotList mem isTail builds notList => exact .tailNotList (sub mem) isTail builds notList

theorem buildFault_of_pick {index : Nat} {attr : Option String}
    (h : pick children index attr = .error cause) : BuildFault children (slot index attr) cause := by
  unfold pick at h
  split at h
  · rename_i absent
    cases h
    exact .noChild (mem_indexes_slot index _) (List.getElem?_eq_none_iff.mp absent)
  · cases h
  · rename_i child attr there
    split at h
    · rename_i lacks
      cases h
      exact .noAttribute (mem_parts_self _) there lacks
    · cases h

theorem exists_of_buildFields_eq_error : ∀ {fields : List Field} {built : FieldMap Value},
    buildFields children fields built = .error cause →
      ∃ field ∈ fields, buildField children field = .error cause
  | [], _, h => by
    rw [buildFields] at h
    cases h
  | field :: rest, _, h => by
    rw [buildFields] at h
    rcases bind_eq_error_iff.mp h with h | ⟨value, -, h⟩
    · exact ⟨field, List.mem_cons_self, h⟩
    · obtain ⟨other, mem, h⟩ := exists_of_buildFields_eq_error h
      exact ⟨other, List.mem_cons_of_mem _ mem, h⟩

theorem exists_of_buildHeads_eq_error : ∀ {heads : List Template},
    buildHeads children heads = .error cause → ∃ head ∈ heads, build children head = .error cause
  | [], h => by
    rw [buildHeads] at h
    cases h
  | head :: rest, h => by
    rw [buildHeads] at h
    rcases bind_eq_error_iff.mp h with h | ⟨item, -, h⟩
    · exact ⟨head, List.mem_cons_self, h⟩
    · rcases bind_eq_error_iff.mp h with h | ⟨items, -, h⟩
      · obtain ⟨other, mem, h⟩ := exists_of_buildHeads_eq_error h
        exact ⟨other, List.mem_cons_of_mem _ mem, h⟩
      · cases h

/-- The tails of a list fail where one of them does, or builds something else than a list. -/
theorem exists_of_buildTails_eq_error : ∀ {tails : List Template},
    buildTails children tails = .error cause →
      ∃ tail ∈ tails, build children tail = .error cause ∨
        ∃ value, build children tail = .ok value ∧ (∀ items, value ≠ .list items) ∧
          cause = .tailNotList value
  | [], h => by
    rw [buildTails] at h
    cases h
  | tail :: rest, h => by
    rw [buildTails] at h
    rcases bind_eq_error_iff.mp h with h | ⟨value, builds, h⟩
    · exact ⟨tail, List.mem_cons_self, .inl h⟩
    · split at h
      · rcases bind_eq_error_iff.mp h with h | ⟨others, -, h⟩
        · obtain ⟨other, mem, h⟩ := exists_of_buildTails_eq_error h
          exact ⟨other, List.mem_cons_of_mem _ mem, h⟩
        · cases h
      · rename_i notList
        cases h
        exact ⟨tail, List.mem_cons_self, .inr ⟨value, builds, notList, rfl⟩⟩

/-- A template that does not build a value has one of the three faults, and names it. -/
theorem buildFault_of_build (h : t.build children = .error cause) : BuildFault children t cause := by
  induction t using partInduction with
  | empty =>
    rw [build] at h
    cases h
  | slot index attr =>
    rw [build] at h
    exact buildFault_of_pick h
  | record tag fields ih =>
    rw [build] at h
    rcases bind_eq_error_iff.mp h with h | ⟨built, -, h⟩
    · obtain ⟨field, mem, h⟩ := exists_of_buildFields_eq_error h
      cases field with
      | computed name t =>
        rw [buildField] at h
        exact (ih name t mem h).of_subset (parts_subset_record mem)
      | fixed name value =>
        rw [buildField] at h
        cases h
    · cases h
  | list heads tails ihHeads ihTails =>
    rw [build] at h
    rcases bind_eq_error_iff.mp h with h | ⟨items, -, h⟩
    · obtain ⟨head, mem, h⟩ := exists_of_buildHeads_eq_error h
      exact (ihHeads head mem h).of_subset (parts_subset_heads mem)
    · rcases bind_eq_error_iff.mp h with h | ⟨rest, -, h⟩
      · obtain ⟨tail, mem, h | ⟨value, builds, notList, rfl⟩⟩ := exists_of_buildTails_eq_error h
        · exact (ihTails tail mem h).of_subset (parts_subset_tails mem)
        · exact .tailNotList (mem_parts_self _) mem builds notList
      · cases h

/-! ### Taking apart -/

/-- What the template is found at fault for when it takes something apart for a rule of the
width. -/
inductive DecomposeFault (width : Nat) (t : Template) : TemplateFault → Prop
  | noChild {index : Nat} (named : index ∈ t.indexes) (outside : width ≤ index) :
      DecomposeFault width t (.noChild index width)
  | mergeConflict {position : Nat} {held incoming : Fragment} (named : position ∈ t.indexes)
      (differ : held ≠ incoming) :
      DecomposeFault width t (.mergeConflict position held incoming)
  | keyCollision {position : Nat} {a b : PartialRecord} {key : String}
      (named : position ∈ t.indexes) (shared : a.sharedKey? b = some key) :
      DecomposeFault width t (.keyCollision key)

variable {width : Nat}

theorem DecomposeFault.of_subset (fault : DecomposeFault width t cause) (sub : t.parts ⊆ u.parts) :
    DecomposeFault width u cause := by
  cases fault with
  | noChild named outside => exact .noChild (indexes_subset sub named) outside
  | mergeConflict named differ => exact .mergeConflict (indexes_subset sub named) differ
  | keyCollision named shared => exact .keyCollision (indexes_subset sub named) shared

/-- What clashes at a position that the template names is a fault of the template. -/
theorem decomposeFault_of_clashes {position : Nat} {held incoming : Fragment}
    (named : position ∈ t.indexes) (clashes : Assignment.Clashes position held incoming cause) :
    DecomposeFault width t cause := by
  cases clashes with
  | conflict differ => exact .mergeConflict named differ
  | collision shared => exact .keyCollision named shared

/-- Only positions that the template names are given anything. -/
theorem within_of_decompose {fragment : Fragment} {flat : Assignment}
    (h : t.decompose width fragment = .ok flat) : flat.Within t.indexes := by
  refine of_decompose (fun _ => True) (hereditary_of_whole fun _ => trivial)
    Assignment.within_of_union (Assignment.within_blank _ width) ?_ trivial h
  intro index attr there fragment flat _ h
  have named : index ∈ t.indexes := mem_indexes.mpr ⟨_, there, rfl⟩
  cases attr with
  | none => exact Assignment.within_of_single (decompose_bare_eq_ok_iff.mp h) named
  | some attr =>
    obtain ⟨v, -, placed⟩ := decompose_attribute_eq_ok_iff.mp h
    exact Assignment.within_of_single placed named

theorem within_of_decomposeField {tag : String} {fields : List Field} {field : Field} {value : Value}
    {found : Assignment} (mem : field ∈ fields)
    (h : decomposeField width tag field value = .ok found) :
    found.Within (record tag fields).indexes := by
  cases field with
  | computed name t =>
    rw [decomposeField] at h
    exact (within_of_decompose h).mono (indexes_subset (parts_subset_record mem))
  | fixed name expected =>
    obtain ⟨-, rfl⟩ := decomposeField_fixed_eq_ok_iff.mp h
    exact Assignment.within_blank _ width

theorem within_of_share {heads tails : List Template} {front rest : List Value}
    {share : Template × Value} {found : Assignment} (mem : share ∈ shares heads tails front rest)
    (h : share.1.decompose width (.value share.2) = .ok found) :
    found.Within (list heads tails).indexes := by
  rcases mem_shares mem with mem | mem
  · exact (within_of_decompose h).mono (indexes_subset (parts_subset_heads mem))
  · exact (within_of_decompose h).mono (indexes_subset (parts_subset_tails mem))

theorem placed_eq_fault_iff {index : Nat} {fragment : Fragment} :
    placed width index fragment = .error (.fault cause) ↔
      Assignment.single width index fragment = .error cause := by
  rw [placed, mapError_eq_error_iff]
  simp

theorem joined_eq_fault_iff {a b : Assignment} :
    joined a b = .error (.fault cause) ↔ a.union b = .error cause := by
  simp [joined_eq_error_iff]

/-- Where members yield only positions that the template names, gathering fails as one of
them does, or because two of them clash. -/
theorem decomposeFault_of_gather {α : Type} {f : α → Except Obstacle Assignment} {as : List α}
    {flat : Assignment} (h : gather f as flat = .error (.fault cause)) (start : flat.Within t.indexes)
    (within : ∀ a ∈ as, ∀ found, f a = .ok found → found.Within t.indexes)
    (each : ∀ a ∈ as, f a = .error (.fault cause) → DecomposeFault width t cause) :
    DecomposeFault width t cause := by
  obtain ⟨before, a, after, held, rfl, gathered, fails⟩ := gather_eq_error_iff.mp h
  rcases fails with failed | ⟨found, yields, clash⟩
  · exact each a (by simp) failed
  · have together : held.Within t.indexes :=
      of_gather Assignment.within_of_union gathered start fun b mem => within b (by simp [mem])
    obtain ⟨i, other, incoming, set, -, clashes⟩ :=
      Assignment.clashes_of_union (joined_eq_fault_iff.mp clash)
    exact decomposeFault_of_clashes (together i other set) clashes

/-- A fixed field has no faults, only a mismatch. -/
theorem exists_of_decomposeField_eq_fault {tag : String} {field : Field} {value : Value}
    (h : decomposeField width tag field value = .error (.fault cause)) :
    ∃ name t, field = .computed name t ∧ t.decompose width (.value value) = .error (.fault cause) := by
  cases field with
  | computed name t =>
    rw [decomposeField] at h
    exact ⟨name, t, rfl, h⟩
  | fixed name expected =>
    rw [decomposeField] at h
    split at h <;> cases h

theorem exists_of_decomposeHeld_eq_fault {tag : String} {held : FieldMap Value} {field : Field}
    (h : decomposeHeld width tag held field = .error (.fault cause)) :
    ∃ value, decomposeField width tag field value = .error (.fault cause) := by
  unfold decomposeHeld at h
  split at h
  · cases h
  · exact ⟨_, h⟩

theorem exists_of_decomposeNamed_eq_fault {tag name : String} {value : Value} :
    ∀ {fields : List Field}, decomposeNamed width tag fields name value = .error (.fault cause) →
      ∃ field ∈ fields, decomposeField width tag field value = .error (.fault cause)
  | [], h => by
    rw [decomposeNamed] at h
    cases h
  | field :: rest, h => by
    rw [decomposeNamed] at h
    split at h
    · exact ⟨field, List.mem_cons_self, h⟩
    · obtain ⟨other, mem, h⟩ := exists_of_decomposeNamed_eq_fault h
      exact ⟨other, List.mem_cons_of_mem _ mem, h⟩

/-- A slot fails where the rule has no such position. -/
theorem noChild_of_slot {index : Nat} {attr : Option String} {fragment : Fragment}
    (h : (slot index attr).decompose width fragment = .error (.fault cause)) :
    width ≤ index ∧ cause = .noChild index width := by
  have placed : ∃ given, Assignment.single width index given = .error cause := by
    cases attr with
    | none =>
      rw [decompose] at h
      exact ⟨_, placed_eq_fault_iff.mp h⟩
    | some attr =>
      cases fragment with
      | value v =>
        rw [decompose] at h
        exact ⟨_, placed_eq_fault_iff.mp h⟩
      | fields part =>
        rw [decompose] at h
        cases h
  obtain ⟨_, placed⟩ := placed
  exact Assignment.single_eq_error_iff.mp placed

/-- A template that does not take a fragment apart, and not for its shape, has one of the
three faults, and names it. -/
theorem decomposeFault_of_decompose {fragment : Fragment}
    (h : t.decompose width fragment = .error (.fault cause)) : DecomposeFault width t cause := by
  induction t using partInduction generalizing fragment with
  | empty =>
    rw [decompose] at h
    split at h <;> cases h
  | slot index attr =>
    obtain ⟨outside, rfl⟩ := noChild_of_slot h
    exact .noChild (mem_indexes_slot index attr) outside
  | record tag fields ih =>
    have ofField : ∀ field ∈ fields, ∀ value,
        decomposeField width tag field value = .error (.fault cause) →
          DecomposeFault width (record tag fields) cause := by
      intro field mem value h
      obtain ⟨name, t, rfl, h⟩ := exists_of_decomposeField_eq_fault h
      exact (ih name t mem h).of_subset (parts_subset_record mem)
    cases fragment with
    | value v =>
      rcases decompose_record_cases width tag fields v with ⟨reason, no⟩ | ⟨held, rfl, size⟩
      · rw [no] at h
        cases h
      rw [decompose_held width size] at h
      refine decomposeFault_of_gather h (Assignment.within_blank _ width) ?_ ?_
      · intro field mem found yields
        obtain ⟨value, -, yields⟩ := decomposeHeld_eq_ok_iff.mp yields
        exact within_of_decomposeField mem yields
      · intro field mem failed
        obtain ⟨value, failed⟩ := exists_of_decomposeHeld_eq_fault failed
        exact ofField field mem value failed
    | fields part =>
      rw [decompose_record_fields] at h
      refine decomposeFault_of_gather h (Assignment.within_blank _ width) ?_ ?_
      · intro entry _ found yields
        obtain ⟨field, mem, -, yields⟩ := exists_of_decomposeNamed yields
        exact within_of_decomposeField mem yields
      · intro entry _ failed
        obtain ⟨field, mem, failed⟩ := exists_of_decomposeNamed_eq_fault failed
        exact ofField field mem entry.2 failed
  | list heads tails ihHeads ihTails =>
    rcases decompose_list_cases width heads tails fragment with
      ⟨reason, no⟩ | ⟨front, rest, rfl, each, left⟩
    · rw [no] at h
      cases h
    rw [decompose_items width each left] at h
    refine decomposeFault_of_gather h (Assignment.within_blank _ width) ?_ ?_
    · intro share mem found yields
      exact within_of_share mem yields
    · intro share mem failed
      rcases mem_shares mem with mem | mem
      · exact (ihHeads share.1 mem failed).of_subset (parts_subset_heads mem)
      · exact (ihTails share.1 mem failed).of_subset (parts_subset_tails mem)

end Template
end ReversibleGrammar
