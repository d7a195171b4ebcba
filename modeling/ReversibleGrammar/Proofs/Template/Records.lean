/-
# Whole and partial records

A record template takes a whole record apart by its own fields, in their order, and a
partial record by the fields of that, in the order of their names. Both come to the same:
gathering does not ask for an order, and of two fields no two have one name. So a partial
record with all the fields of a whole one is taken apart as that is, records without a
common key are taken apart together as each is apart, and it does not matter in which
order the template declares its fields. The same holds of building.

Key theorems: `FieldMap.toList_merge_perm`, `Template.decompose_union`, `Template.decompose_whole`,
`Template.decompose_reordered`, `Template.build_reordered`,
`Template.records_are_taken_apart_consistently`.
-/
import Mathlib.Data.List.Nodup
import ReversibleGrammar.Proofs.Template.Building
import ReversibleGrammar.Proofs.Template.GatheringOrder

namespace ReversibleGrammar

/-! ### The fields of a merged map -/

theorem FieldChain.toList_nodup {α : Type} {lo : Option String} (fields : FieldChain α lo) :
    fields.toList.Nodup :=
  List.Nodup.of_map Prod.fst fields.names_nodup

/-- The fields of two disjoint maps are those of the merged map, in some order. -/
theorem FieldMap.toList_merge_perm {α : Type} {a b : FieldMap α} (disjoint : Disjoint a b) :
    (merge a b).toList.Perm (a.toList ++ b.toList) := by
  have apart : (a.toList ++ b.toList).Nodup := by
    refine List.Nodup.append a.toList_nodup b.toList_nodup fun entry inA inB => ?_
    have heldA : a.get? entry.1 = some entry.2 := (FieldChain.mem_toList a).mp inA
    have heldB : b.get? entry.1 = some entry.2 := (FieldChain.mem_toList b).mp inB
    rcases disjoint entry.1 with absent | absent
    · rw [absent] at heldA
      cases heldA
    · rw [absent] at heldB
      cases heldB
  refine (List.perm_ext_iff_of_nodup (FieldChain.toList_nodup _) apart).mpr ?_
  rintro ⟨key, value⟩
  rw [List.mem_append, FieldChain.mem_toList, FieldChain.mem_toList, FieldChain.mem_toList,
    get?_merge]
  rcases disjoint key with absent | absent <;> simp [absent]

namespace Template

variable {width : Nat} {tag : String} {fields reordered : List Field}

/-! ### Parts of records -/

/-- Disjoint records are taken apart together as each is apart. -/
theorem decompose_union {a b : PartialRecord} (disjoint : FieldMap.Disjoint a b) {flat : Assignment} :
    (record tag fields).decompose width (.fields (FieldMap.merge a b)) = .ok flat ↔
      ∃ x y, (record tag fields).decompose width (.fields a) = .ok x ∧
        (record tag fields).decompose width (.fields b) = .ok y ∧ x.union y = .ok flat := by
  simp only [decompose_record_fields]
  rw [gather_perm (FieldMap.toList_merge_perm disjoint), gather_append_eq_ok_iff]

/-! ### All of a record -/

/-- Among fields with distinct names, a name leads to the field that has it. -/
theorem decomposeNamed_eq_ok_iff {name : String} {value : Value} {found : Assignment} :
    ∀ {fields : List Field}, (fields.map Field.name).Nodup →
      (decomposeNamed width tag fields name value = .ok found ↔
        ∃ field ∈ fields, field.name = name ∧ decomposeField width tag field value = .ok found)
  | [], _ => by simp [decomposeNamed]
  | field :: rest, distinct => by
    obtain ⟨absent, distinct⟩ := List.nodup_cons.mp distinct
    rw [decomposeNamed, List.exists_mem_cons_iff]
    by_cases here : field.name = name
    · have notLater : ¬ ∃ other ∈ rest, other.name = name ∧
          decomposeField width tag other value = .ok found := by
        rintro ⟨other, mem, named, -⟩
        exact absent (List.mem_map.mpr ⟨other, mem, named.trans here.symm⟩)
      simp [here, notLater]
    · simp [here, decomposeNamed_eq_ok_iff distinct]

/-- What the field of a name yields, given the fields of a record. -/
def decomposeAt (width : Nat) (tag : String) (fields : List Field) (held : FieldMap Value)
    (name : String) : Except Obstacle Assignment :=
  match held.get? name with
  | none => .error (.mismatch (.recordLacks (.record tag held) name))
  | some value => decomposeNamed width tag fields name value

theorem decomposeAt_eq_ok_iff {held : FieldMap Value} {name : String} {found : Assignment} :
    decomposeAt width tag fields held name = .ok found ↔ ∃ value, held.get? name = some value ∧
      decomposeNamed width tag fields name value = .ok found := by
  unfold decomposeAt
  cases held.get? name <;> simp

theorem gather_decomposeHeld_iff (distinct : (fields.map Field.name).Nodup) {held : FieldMap Value}
    {flat : Assignment} :
    gather (decomposeHeld width tag held) fields (.blank width) = .ok flat ↔
      gather (decomposeAt width tag fields held) (fields.map Field.name) (.blank width) =
        .ok flat := by
  rw [gather_map]
  refine gather_congr fun field mem found => ?_
  simp only [decomposeHeld_eq_ok_iff, decomposeAt_eq_ok_iff, decomposeNamed_eq_ok_iff distinct]
  refine exists_congr fun value => and_congr_right fun _ => ?_
  constructor
  · intro yields
    exact ⟨field, mem, rfl, yields⟩
  · rintro ⟨other, mem', named, yields⟩
    rwa [← List.inj_on_of_nodup_map distinct mem' mem named]

theorem decompose_fields_eq_ok_iff {held : FieldMap Value} {flat : Assignment} :
    (record tag fields).decompose width (.fields held) = .ok flat ↔
      gather (decomposeAt width tag fields held) held.names (.blank width) = .ok flat := by
  rw [decompose_record_fields, FieldChain.names, gather_map]
  refine gather_congr fun entry mem found => ?_
  have isHeld : held.get? entry.1 = some entry.2 := (FieldChain.mem_toList held).mp mem
  simp [decomposeAt_eq_ok_iff, isHeld]

/-- A record that has as many fields as the template is taken apart as the partial record of all
its fields is. -/
theorem decompose_whole (distinct : (fields.map Field.name).Nodup) {held : FieldMap Value}
    (size : held.size = fields.length) {flat : Assignment} :
    (record tag fields).decompose width (.value (.record tag held)) = .ok flat ↔
      (record tag fields).decompose width (.fields held) = .ok flat := by
  rw [decompose_held width size, gather_decomposeHeld_iff distinct, decompose_fields_eq_ok_iff]
  have sameLength : held.names.length = (fields.map Field.name).length := by
    rw [FieldChain.length_names, size, List.length_map]
  -- Either side succeeds only if the names are the same, and so lists of them in two orders.
  constructor
  · intro h
    have sub : (fields.map Field.name).Subperm held.names := by
      refine distinct.subperm fun name mem => ?_
      obtain ⟨found, yields⟩ := exists_of_gather h name mem
      obtain ⟨value, isHeld, -⟩ := decomposeAt_eq_ok_iff.mp yields
      exact FieldChain.mem_names.mpr ⟨value, isHeld⟩
    exact (gather_perm (sub.perm_of_length_le (Nat.le_of_eq sameLength))).mp h
  · intro h
    have sub : held.names.Subperm (fields.map Field.name) := by
      refine (FieldChain.names_nodup held).subperm fun name mem => ?_
      obtain ⟨found, yields⟩ := exists_of_gather h name mem
      obtain ⟨value, -, yields⟩ := decomposeAt_eq_ok_iff.mp yields
      obtain ⟨field, there, named, -⟩ := exists_of_decomposeNamed yields
      exact List.mem_map.mpr ⟨field, there, named⟩
    exact (gather_perm (sub.perm_of_length_le (Nat.le_of_eq sameLength.symm))).mp h

/-! ### The fields in another order -/

theorem distinct_of_perm (perm : reordered.Perm fields) (distinct : (fields.map Field.name).Nodup) :
    (reordered.map Field.name).Nodup :=
  (perm.map Field.name).nodup_iff.mpr distinct

/-- Reordering the fields of a template does not change what it takes apart. -/
theorem decompose_reordered (distinct : (fields.map Field.name).Nodup)
    (perm : reordered.Perm fields) {fragment : Fragment} {flat : Assignment} :
    (record tag reordered).decompose width fragment = .ok flat ↔
      (record tag fields).decompose width fragment = .ok flat := by
  cases fragment with
  | value v => simp only [decompose_record_eq_ok_iff, perm.length_eq, gather_perm perm]
  | fields part =>
    rw [decompose_record_fields, decompose_record_fields]
    refine gather_congr fun entry _ found => ?_
    simp only [decomposeNamed_eq_ok_iff distinct,
      decomposeNamed_eq_ok_iff (distinct_of_perm perm distinct), perm.mem_iff]

theorem made_iff_of_perm (perm : reordered.Perm fields) {children : List Value}
    {made : FieldMap Value} : Made children reordered made ↔ Made children fields made := by
  have names : ∀ key, key ∈ reordered.map Field.name ↔ key ∈ fields.map Field.name :=
    fun _ => (perm.map Field.name).mem_iff
  constructor
  · intro h
    exact ⟨fun field mem => h.each field (perm.mem_iff.mpr mem),
      fun key value found => (names key).mp (h.only key value found)⟩
  · intro h
    exact ⟨fun field mem => h.each field (perm.mem_iff.mp mem),
      fun key value found => (names key).mpr (h.only key value found)⟩

/-- Nor does it change what the template builds. -/
theorem build_reordered (distinct : (fields.map Field.name).Nodup) (perm : reordered.Perm fields)
    {children : List Value} {v : Value} :
    build children (record tag reordered) = .ok v ↔ build children (record tag fields) = .ok v := by
  rw [build_record_eq_ok_iff distinct, build_record_eq_ok_iff (distinct_of_perm perm distinct)]
  simp only [made_iff_of_perm perm]

/-- **A template treats whole and partial records alike.** If its fields have distinct names, then
records without a common key are taken apart together as each is apart and what that yields is
united; a record is taken apart as the partial record of all its fields; and the order in which
the template declares its fields changes neither what it takes apart nor what it builds. -/
theorem records_are_taken_apart_consistently (width : Nat) (tag : String) (fields : List Field)
    (distinct : (fields.map Field.name).Nodup) :
    (∀ a b : PartialRecord, FieldMap.Disjoint a b → ∃ both, a.union b = .ok both ∧
      ∀ flat, (record tag fields).decompose width (.fields both) = .ok flat ↔
        ∃ x y, (record tag fields).decompose width (.fields a) = .ok x ∧
          (record tag fields).decompose width (.fields b) = .ok y ∧ x.union y = .ok flat) ∧
    (∀ held : FieldMap Value, held.size = fields.length → ∀ flat,
      (record tag fields).decompose width (.value (.record tag held)) = .ok flat ↔
        (record tag fields).decompose width (.fields held) = .ok flat) ∧
    (∀ reordered : List Field, reordered.Perm fields →
      (∀ fragment flat, (record tag reordered).decompose width fragment = .ok flat ↔
        (record tag fields).decompose width fragment = .ok flat) ∧
      ∀ children v, build children (record tag reordered) = .ok v ↔
        build children (record tag fields) = .ok v) := by
  refine ⟨fun a b disjoint => ?_, fun held size flat => decompose_whole distinct size,
    fun reordered perm => ⟨?_, ?_⟩⟩
  · have free : a.sharedKey? b = none := PartialRecord.sharedKey?_eq_none_iff.mpr disjoint
    have unites : a.union b = .ok (FieldMap.merge a b) := by rw [PartialRecord.union, free]
    exact ⟨_, unites, fun flat => decompose_union disjoint⟩
  · exact fun fragment flat => decompose_reordered distinct perm
  · exact fun children v => build_reordered distinct perm

/-- Two fields of one child are taken apart from a record, from the partial records of either
field and their union, and in either order. -/
theorem fields_of_one_child_are_consistent :
    let left : Field := .computed "left" (.slot 0 (some "a"))
    let right : Field := .computed "right" (.slot 0 (some "b"))
    let whole : FieldMap Value := FieldMap.ofList [("left", .str "x"), ("right", .str "y")]
    let flat : Assignment :=
      ⟨[some (.fields (FieldMap.ofList [("a", .str "x"), ("b", .str "y")]))]⟩
    ([left, right].map Field.name).Nodup ∧ whole.size = 2 ∧
      (record "P" [left, right]).decompose 1 (.fields whole) = .ok flat ∧
      (record "P" [left, right]).decompose 1 (.value (.record "P" whole)) = .ok flat ∧
      (record "P" [right, left]).decompose 1 (.value (.record "P" whole)) = .ok flat := by
  intro left right whole flat
  have distinct : ([left, right].map Field.name).Nodup := by decide
  obtain ⟨parts, wholes, orders⟩ := records_are_taken_apart_consistently 1 "P" [left, right] distinct
  obtain ⟨both, unites, together⟩ := parts (FieldMap.single "left" (.str "x"))
    (FieldMap.single "right" (.str "y")) (PartialRecord.sharedKey?_eq_none_iff.mp rfl)
  have fromParts : (record "P" [left, right]).decompose 1 (.fields both) = .ok flat :=
    (together flat).mpr ⟨_, _, rfl, rfl, rfl⟩
  cases unites
  have fromWhole := (wholes whole rfl flat).mpr fromParts
  exact ⟨distinct, rfl, fromParts, fromWhole,
    ((orders [right, left] (List.Perm.swap _ _ _)).1 _ flat).mpr fromWhole⟩

end Template
end ReversibleGrammar
