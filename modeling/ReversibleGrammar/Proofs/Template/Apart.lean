/-
# Templates that name each position once

Where no index is named by two slots, the parts of a template never meet: what the fields
of a record yield, or the heads and tails of a list, stands at positions of their own. So the
unions on the way have nothing to join, and taking apart fails only where a slot names a
position that the rule does not have. A partial record is taken apart by its own keys, which
lead to different fields, for no key stands in it twice.

Key definitions: `Template.indexesNamed`.
Key theorems: `Template.exists_of_gather_eq_fault`, `Template.noChild_of_decompose`.
-/
import Mathlib.Data.List.Nodup
import Mathlib.Data.List.Pairwise
import ReversibleGrammar.Proofs.FieldMap.Names
import ReversibleGrammar.Proofs.Template.Faults
import ReversibleGrammar.Proofs.Template.Slots

namespace ReversibleGrammar

namespace Template

variable {width : Nat} {cause : TemplateFault}

/-! ### The indexes of fields with a name -/

/-- The indexes of the fields that have a name. -/
def indexesNamed (fields : List Field) (name : String) : List Nat :=
  (fields.filter fun field => field.name == name).flatMap Field.indexes

theorem mem_indexesNamed {fields : List Field} {name : String} {i : Nat} :
    i ∈ indexesNamed fields name ↔ ∃ field ∈ fields, field.name = name ∧ i ∈ field.indexes := by
  simp [indexesNamed, and_assoc]

/-- Fields of different names have no index in common. -/
theorem disjoint_indexesNamed {fields : List Field} (once : (fields.flatMap Field.indexes).Nodup)
    {name other : String} (differ : name ≠ other) :
    (indexesNamed fields name).Disjoint (indexesNamed fields other) := by
  intro i first second
  obtain ⟨a, memA, rfl, inA⟩ := mem_indexesNamed.mp first
  obtain ⟨b, memB, rfl, inB⟩ := mem_indexesNamed.mp second
  have apart := (List.nodup_flatMap.mp once).2
  have : Std.Symm (Function.onFun List.Disjoint Field.indexes) := ⟨fun _ _ => List.disjoint_symm⟩
  exact apart.forall memA memB (fun same => differ (congrArg Field.name same)) inA inB

theorem within_indexes_of_decomposeField {tag : String} {field : Field} {value : Value}
    {found : Assignment} (h : decomposeField width tag field value = .ok found) :
    found.Within field.indexes := by
  cases field with
  | computed name t =>
    rw [decomposeField] at h
    exact within_of_decompose h
  | fixed name expected =>
    obtain ⟨-, rfl⟩ := decomposeField_fixed_eq_ok_iff.mp h
    exact Assignment.within_blank _ width

/-! ### Members that do not meet -/

/-- Members that yield nothing at the positions of another are gathered without a clash: a
fault is one of a member. -/
theorem exists_of_gather_eq_fault {α : Type} {f : α → Except Obstacle Assignment}
    {positions : α → List Nat} {as : List α} (h : gather f as (.blank width) = .error (.fault cause))
    (within : ∀ a ∈ as, ∀ found, f a = .ok found → found.Within (positions a))
    (apart : as.Pairwise (fun a b => (positions a).Disjoint (positions b))) :
    ∃ a ∈ as, f a = .error (.fault cause) := by
  obtain ⟨before, a, after, held, rfl, gathered, fails⟩ := gather_eq_error_iff.mp h
  rcases fails with failed | ⟨found, yields, clash⟩
  · exact ⟨a, by simp, failed⟩
  · obtain ⟨i, other, incoming, set, given, -⟩ :=
      Assignment.clashes_of_union (joined_eq_fault_iff.mp clash)
    have behind : held.Within (before.flatMap positions) := by
      refine of_gather Assignment.within_of_union gathered (Assignment.within_blank _ width) ?_
      intro b mem found yields
      refine (within b (by simp [mem]) found yields).mono fun j there => ?_
      exact List.mem_flatMap.mpr ⟨b, mem, there⟩
    obtain ⟨b, mem, isTaken⟩ := List.mem_flatMap.mp (behind i other set)
    have isYielded : i ∈ positions a := within a (by simp) found yields i incoming given
    have disjoint := (List.pairwise_append.mp apart).2.2 b mem a List.mem_cons_self
    exact absurd isYielded (disjoint isTaken)

/-- A record template that names no index twice is at fault where one of its fields is. -/
theorem exists_field_of_decompose_eq_fault {tag : String} {fields : List Field}
    (once : (fields.flatMap Field.indexes).Nodup) {fragment : Fragment}
    (h : (record tag fields).decompose width fragment = .error (.fault cause)) :
    ∃ name t value, .computed name t ∈ fields ∧
      t.decompose width (.value value) = .error (.fault cause) := by
  have ofField : ∀ field ∈ fields, ∀ value,
      decomposeField width tag field value = .error (.fault cause) →
        ∃ name t value, .computed name t ∈ fields ∧
          t.decompose width (.value value) = .error (.fault cause) := by
    intro field mem value failed
    obtain ⟨name, t, rfl, failed⟩ := exists_of_decomposeField_eq_fault failed
    exact ⟨name, t, value, mem, failed⟩
  cases fragment with
  | value v =>
    rcases decompose_record_cases width tag fields v with ⟨reason, no⟩ | ⟨held, rfl, size⟩
    · rw [no] at h
      cases h
    rw [decompose_held width size] at h
    have within : ∀ field ∈ fields, ∀ found, decomposeHeld width tag held field = .ok found →
        found.Within field.indexes := by
      intro field _ found yields
      obtain ⟨value, -, yields⟩ := decomposeHeld_eq_ok_iff.mp yields
      exact within_indexes_of_decomposeField yields
    obtain ⟨field, mem, failed⟩ :=
      exists_of_gather_eq_fault h within (List.nodup_flatMap.mp once).2
    obtain ⟨value, failed⟩ := exists_of_decomposeHeld_eq_fault failed
    exact ofField field mem value failed
  | fields part =>
    rw [decompose_record_fields] at h
    have within : ∀ entry ∈ part.toList, ∀ found,
        decomposeNamed width tag fields entry.1 entry.2 = .ok found →
          found.Within (indexesNamed fields entry.1) := by
      intro entry _ found yields
      obtain ⟨field, mem, named, yields⟩ := exists_of_decomposeNamed yields
      refine (within_indexes_of_decomposeField yields).mono fun i isIndex => ?_
      exact mem_indexesNamed.mpr ⟨field, mem, named, isIndex⟩
    have apart : part.toList.Pairwise fun a b =>
        (indexesNamed fields a.1).Disjoint (indexesNamed fields b.1) :=
      (List.pairwise_map.mp (FieldChain.names_nodup part)).imp (disjoint_indexesNamed once)
    obtain ⟨entry, -, failed⟩ := exists_of_gather_eq_fault h within apart
    obtain ⟨field, mem, failed⟩ := exists_of_decomposeNamed_eq_fault failed
    exact ofField field mem entry.2 failed

/-- A list template that names no index twice is at fault where a head or a tail is. -/
theorem exists_member_of_decompose_eq_fault {heads tails : List Template}
    (once : ((heads ++ tails).flatMap indexes).Nodup) {fragment : Fragment}
    (h : (list heads tails).decompose width fragment = .error (.fault cause)) :
    ∃ t value, (t ∈ heads ∨ t ∈ tails) ∧
      t.decompose width (.value value) = .error (.fault cause) := by
  rcases decompose_list_cases width heads tails fragment with
    ⟨reason, no⟩ | ⟨front, rest, rfl, each, left⟩
  · rw [no] at h
    cases h
  rw [decompose_items width each left] at h
  have apart : (shares heads tails front rest).Pairwise fun a b =>
      a.1.indexes.Disjoint b.1.indexes := by
    have members := (List.nodup_flatMap.mp once).2
    rw [← map_fst_shares each, List.pairwise_map] at members
    exact members
  obtain ⟨share, mem, failed⟩ := exists_of_gather_eq_fault h
    (fun share _ found yields => within_of_decompose yields) apart
  exact ⟨share.1, share.2, mem_shares mem, failed⟩

/-- A template that names no index twice fails to take a fragment apart only for a slot that
names a position outside the rule. -/
theorem noChild_of_decompose {t : Template} (once : t.indexes.Nodup) {fragment : Fragment}
    (h : t.decompose width fragment = .error (.fault cause)) :
    ∃ index ∈ t.indexes, width ≤ index ∧ cause = .noChild index width := by
  induction t using partInduction generalizing fragment with
  | empty =>
    rw [decompose] at h
    split at h <;> cases h
  | slot index attr => exact ⟨index, mem_indexes_slot index attr, noChild_of_slot h⟩
  | record tag fields ih =>
    rw [indexes_record] at once
    obtain ⟨name, t, value, mem, failed⟩ := exists_field_of_decompose_eq_fault once h
    have onceHere : t.indexes.Nodup := (List.nodup_flatMap.mp once).1 _ mem
    obtain ⟨index, named, outside⟩ := ih name t mem onceHere failed
    exact ⟨index, indexes_subset (parts_subset_record mem) named, outside⟩
  | list heads tails ihHeads ihTails =>
    rw [indexes_list] at once
    obtain ⟨t, value, mem | mem, failed⟩ := exists_member_of_decompose_eq_fault once h
    · have onceHere := (List.nodup_flatMap.mp once).1 t (List.mem_append_left _ mem)
      obtain ⟨index, named, outside⟩ := ihHeads t mem onceHere failed
      exact ⟨index, indexes_subset (parts_subset_heads mem) named, outside⟩
    · have onceHere := (List.nodup_flatMap.mp once).1 t (List.mem_append_right _ mem)
      obtain ⟨index, named, outside⟩ := ihTails t mem onceHere failed
      exact ⟨index, indexes_subset (parts_subset_tails mem) named, outside⟩

end Template
end ReversibleGrammar
