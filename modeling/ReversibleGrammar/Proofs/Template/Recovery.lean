/-
# Taking apart what was built

A regular template that built a value takes it apart again, as long as its slots are
separate and none of its tails built an empty list, for a list is only given to a tail that
gets something of it. Each position is then given what the slots ask of it: the child
itself, or the attributes of the child that they project. The positions that are given
something are just those that the template names. So without attributes every position
that is set is given its child.

Key definitions: `Assignment.Restores`, `Template.FullTails`, `Template.Recovers`.
Key theorems: `Template.get?_eq_none_iff`, `Template.exists_gather_projects`,
`Template.recovers`, `Template.exists_decompose_of_build`,
`Template.decompose_undoes_build`.
-/
import ReversibleGrammar.Proofs.Assignment.Projection
import ReversibleGrammar.Proofs.Template.Building
import ReversibleGrammar.Proofs.Template.Gathering
import ReversibleGrammar.Proofs.Template.Slots

namespace ReversibleGrammar

namespace Assignment

/-- Each position that is set is given its child. -/
def Restores (children : List Value) (a : Assignment) : Prop :=
  ∀ i fragment, a.get? i = some fragment →
    ∃ child, children[i]? = some child ∧ fragment = .value child

end Assignment

namespace Template

variable {children : List Value} {width : Nat}

/-! ### The positions that are set -/

theorem get?_of_gather_eq_none_iff {α : Type} {f : α → Except Obstacle Assignment} {as : List α}
    {flat : Assignment} (h : gather f as (.blank width) = .ok flat) {i : Nat} :
    flat.get? i = none ↔ ∀ a ∈ as, ∃ found, f a = .ok found ∧ found.get? i = none := by
  rw [gather_iff (fun joins => Assignment.get?_of_union_eq_none_iff joins) h]
  exact and_iff_right (Assignment.get?_blank width i)

/-- A whole value is taken apart to the positions that the template names. -/
theorem get?_eq_none_iff {t : Template} {i : Nat} : ∀ {v : Value} {flat : Assignment},
    t.decompose width (.value v) = .ok flat → (flat.get? i = none ↔ i ∉ t.indexes) := by
  induction t using partInduction with
  | empty =>
    intro v flat apart
    obtain ⟨-, rfl⟩ := decompose_empty_eq_ok_iff.mp apart
    simp [Assignment.get?_blank, indexes, parts, index?]
  | slot index attr =>
    intro v flat apart
    have placed : ∃ fragment, Assignment.single width index fragment = .ok flat := by
      cases attr with
      | none => exact ⟨_, decompose_bare_eq_ok_iff.mp apart⟩
      | some attr =>
        obtain ⟨w, -, placed⟩ := decompose_attribute_eq_ok_iff.mp apart
        exact ⟨_, placed⟩
    obtain ⟨fragment, placed⟩ := placed
    rw [Assignment.get?_of_single placed]
    simp [indexes, parts, index?, eq_comm]
  | record tag fields ih =>
    intro v flat apart
    obtain ⟨held, -, -, apart⟩ := decompose_record_eq_ok_iff.mp apart
    rw [get?_of_gather_eq_none_iff apart, mem_indexes_record]
    refine ⟨fun unset named => ?_, fun unnamed field mem => ?_⟩
    · obtain ⟨name, t, mem, named⟩ := named
      obtain ⟨found, yields, none⟩ := unset _ mem
      obtain ⟨value, -, yields⟩ := decomposeHeld_eq_ok_iff.mp yields
      rw [decomposeField] at yields
      exact (ih name t mem yields).mp none named
    · obtain ⟨found, yields⟩ := exists_of_gather apart field mem
      refine ⟨found, yields, ?_⟩
      obtain ⟨value, -, yields⟩ := decomposeHeld_eq_ok_iff.mp yields
      cases field with
      | computed name t =>
        rw [decomposeField] at yields
        exact (ih name t mem yields).mpr fun named => unnamed ⟨name, t, mem, named⟩
      | fixed =>
        obtain ⟨-, rfl⟩ := decomposeField_fixed_eq_ok_iff.mp yields
        exact Assignment.get?_blank width i
  | list heads tails ihHeads ihTails =>
    intro v flat apart
    obtain ⟨front, rest, -, sameLength, -, apart⟩ := decompose_list_eq_ok_iff.mp apart
    have ih : ∀ share ∈ shares heads tails front rest, ∀ found,
        share.1.decompose width (.value share.2) = .ok found →
          (found.get? i = none ↔ i ∉ share.1.indexes) := by
      intro share mem found yields
      rcases mem_shares mem with mem | mem
      · exact ihHeads _ mem yields
      · exact ihTails _ mem yields
    have all : (∀ share ∈ shares heads tails front rest, i ∉ share.1.indexes) ↔
        (∀ t ∈ heads, i ∉ t.indexes) ∧ ∀ t ∈ tails, i ∉ t.indexes := by
      rw [← List.forall_mem_append, ← map_fst_shares sameLength, List.forall_mem_map]
    rw [get?_of_gather_eq_none_iff apart, mem_indexes_list, not_or]
    simp only [not_exists, not_and]
    rw [← all]
    refine forall₂_congr fun share mem => ?_
    obtain ⟨found, yields⟩ := exists_of_gather apart share mem
    rw [← ih share mem found yields]
    simp [yields]

/-! ### Recovery -/

/-- No tail in the template builds an empty list from the children. -/
def FullTails (children : List Value) (t : Template) : Prop :=
  ∀ part ∈ t.parts, ∀ tail ∈ part.tails, tail.build children ≠ .ok (.list [])

theorem FullTails.of_subset {t u : Template} (h : FullTails children u) (sub : t.parts ⊆ u.parts) :
    FullTails children t := fun part mem => h part (sub mem)

/-- Assignments that project the children by parts of separate slots are gathered to one
that projects them by all. -/
theorem exists_gather_projects {α : Type} {f : α → Except Obstacle Assignment}
    {slotsOf : α → List (Nat × Option String)} : ∀ {as : List α} {flat : Assignment}
      {named : List (Nat × Option String)}, Separate (named ++ as.flatMap slotsOf) →
      flat.Projects children named →
      (∀ a ∈ as, ∃ found, f a = .ok found ∧ found.Projects children (slotsOf a)) →
      ∃ result, gather f as flat = .ok result ∧
        result.Projects children (named ++ as.flatMap slotsOf)
  | [], flat, named, _, start, _ => ⟨flat, rfl, by rwa [List.flatMap_nil, List.append_nil]⟩
  | a :: rest, flat, named, separate, start, each => by
    obtain ⟨⟨found, yields, projects⟩, others⟩ := List.forall_mem_cons.mp each
    rw [List.flatMap_cons, ← List.append_assoc] at separate ⊢
    obtain ⟨both, joins, projects⟩ := Assignment.exists_union_of_projects
      (separate.of_sublist (List.sublist_append_left _ _)) start projects
    obtain ⟨result, h, projects⟩ := exists_gather_projects separate projects others
    exact ⟨result, gather_cons_eq_ok_iff.mpr ⟨found, yields, both, joins, h⟩, projects⟩

theorem slots_sublist_of_mem {α : Type} {slotsOf : α → List (Nat × Option String)} {as : List α}
    {a : α} (mem : a ∈ as) : (slotsOf a).Sublist (as.flatMap slotsOf) :=
  List.sublist_flatten_of_mem (List.mem_map_of_mem mem)

/-- What the template has built from the children, it takes apart into what its slots ask of
them. -/
def Recovers (children : List Value) (t : Template) : Prop :=
  ∀ v, t.build children = .ok v →
    ∃ flat, t.decompose children.length (.value v) = .ok flat ∧ flat.Projects children t.slots

theorem recovers_of_slot {index : Nat} {attr : Option String} :
    Recovers children (slot index attr) := by
  intro v builds
  rw [build] at builds
  rw [slots_slot]
  cases attr with
  | none =>
    have isChild := pick_none_eq_ok_iff.mp builds
    obtain ⟨inside, -⟩ := List.getElem?_eq_some_iff.mp isChild
    have placed : Assignment.single children.length index (.value v) = .ok _ :=
      Assignment.single_eq_ok_iff.mpr ⟨inside, rfl⟩
    refine ⟨_, decompose_bare_eq_ok_iff.mpr placed, Assignment.projects_of_single placed ?_⟩
    exact .whole (List.mem_singleton_self _) isChild
  | some attr =>
    obtain ⟨child, isChild, field⟩ := pick_some_eq_ok_iff.mp builds
    obtain ⟨inside, -⟩ := List.getElem?_eq_some_iff.mp isChild
    have placed : Assignment.single children.length index (.fields (FieldMap.single attr v)) =
        .ok _ := Assignment.single_eq_ok_iff.mpr ⟨inside, rfl⟩
    refine ⟨_, decompose_attribute_eq_ok_iff.mpr ⟨v, rfl, placed⟩,
      Assignment.projects_of_single placed ?_⟩
    refine .attributes (List.mem_singleton_self _) isChild (fun key mem => ?_) fun key => ?_
    · cases List.mem_singleton.mp mem
      simp [field]
    · rw [FieldMap.get?_single]
      by_cases same : attr = key
      · simp [← same, field]
      · simp [same, Ne.symm same]

theorem recovers_of_record {tag : String} {fields : List Field}
    (distinct : (fields.map Field.name).Nodup) (separate : Separate (fields.flatMap Field.slots))
    (ih : ∀ name t, .computed name t ∈ fields → Recovers children t) :
    Recovers children (record tag fields) := by
  intro v builds
  rw [slots_record]
  obtain ⟨made, rfl, isMade⟩ := (build_record_eq_ok_iff distinct).mp builds
  have each : ∀ field ∈ fields, ∃ found,
      decomposeHeld children.length tag made field = .ok found ∧
        found.Projects children field.slots := by
    intro field mem
    obtain ⟨value, buildsField, isField⟩ := isMade.each field mem
    cases field with
    | computed name t =>
      rw [buildField] at buildsField
      obtain ⟨found, yields, projects⟩ := ih name t mem _ buildsField
      refine ⟨found, decomposeHeld_eq_ok_iff.mpr ⟨value, isField, ?_⟩, projects⟩
      rw [decomposeField, yields]
    | fixed name expected =>
      rw [buildField] at buildsField
      cases buildsField
      have yields : decomposeField children.length tag (.fixed name value) value =
          .ok (.blank children.length) := decomposeField_fixed_eq_ok_iff.mpr ⟨rfl, rfl⟩
      exact ⟨_, decomposeHeld_eq_ok_iff.mpr ⟨_, isField, yields⟩, Assignment.projects_blank _⟩
  obtain ⟨flat, apart, projects⟩ :=
    exists_gather_projects separate (Assignment.projects_blank _) each
  have sameSize := isMade.size_eq distinct
  exact ⟨flat, decompose_record_eq_ok_iff.mpr ⟨made, rfl, sameSize, apart⟩, projects⟩

/-- If no tail built an empty list, a list reaches beyond its heads where it has a tail. -/
theorem tails_eq_nil_iff_of_full {tails : List Template} {lists : List (List Value)}
    (full : ∀ tail ∈ tails, tail.build children ≠ .ok (.list []))
    (each : List.Forall₂ (fun t l => t.build children = .ok (.list l)) tails lists) :
    tails = [] ↔ lists.flatten = [] := by
  cases each with
  | nil => simp
  | @cons tail l _ _ builds =>
    have notEmpty : l ≠ [] := by
      rintro rfl
      exact full tail List.mem_cons_self builds
    simp [notEmpty]

theorem recovers_of_list {heads tails : List Template} (oneTail : tails.length ≤ 1)
    (separate : Separate ((heads ++ tails).flatMap slots))
    (full : ∀ tail ∈ tails, tail.build children ≠ .ok (.list []))
    (ihHeads : ∀ t ∈ heads, Recovers children t) (ihTails : ∀ t ∈ tails, Recovers children t) :
    Recovers children (list heads tails) := by
  intro v builds
  rw [slots_list]
  obtain ⟨items, lists, rfl, eachHead, eachTail⟩ := build_list_eq_ok_iff.mp builds
  have left := tails_eq_nil_iff_of_full full eachTail
  obtain ⟨sameLength, eachHead⟩ := List.forall₂_iff_zip.mp eachHead
  have each : ∀ share ∈ shares heads tails items lists.flatten, ∃ found,
      share.1.decompose children.length (.value share.2) = .ok found ∧
        found.Projects children share.1.slots := by
    intro share mem
    rcases List.mem_append.mp mem with mem | mem
    · exact ihHeads _ (List.of_mem_zip mem).1 _ (eachHead mem)
    · obtain ⟨tail, there, rfl⟩ := List.mem_map.mp mem
      refine ihTails _ there _ ?_
      rcases forall₂_of_oneTail oneTail eachTail with ⟨rfl, rfl⟩ | ⟨only, l, rfl, rfl, buildsTail⟩
      · cases there
      · obtain rfl := List.mem_singleton.mp there
        simpa using buildsTail
  have sameSlots : (shares heads tails items lists.flatten).flatMap (fun share => share.1.slots) =
      (heads ++ tails).flatMap slots := by
    rw [← map_fst_shares sameLength.symm, List.flatMap_map]
  rw [← sameSlots] at separate ⊢
  obtain ⟨flat, apart, projects⟩ :=
    exists_gather_projects separate (Assignment.projects_blank _) each
  exact ⟨flat, decompose_list_eq_ok_iff.mpr
    ⟨items, lists.flatten, rfl, sameLength.symm, left, apart⟩, projects⟩

/-- What a regular template with separate slots has built, and no tail of it an empty
list, it takes apart into what the slots ask of the children. -/
theorem recovers {t : Template} (regular : Regular t) (separate : Separate t.slots)
    (full : FullTails children t) : Recovers children t := by
  induction t using partInduction with
  | empty =>
    intro v builds
    rw [build] at builds
    cases builds
    exact ⟨_, decompose_empty_eq_ok_iff.mpr ⟨rfl, rfl⟩, Assignment.projects_blank _⟩
  | slot index attr => exact recovers_of_slot
  | record tag fields ih =>
    rw [slots_record] at separate
    refine recovers_of_record regular.names_nodup separate fun name t mem => ?_
    have sub : t.parts ⊆ (record tag fields).parts := parts_subset_record mem
    have slotsSub : (Field.computed name t).slots.Sublist (fields.flatMap Field.slots) :=
      slots_sublist_of_mem mem
    exact ih name t mem (regular.of_subset sub) (separate.of_sublist slotsSub) (full.of_subset sub)
  | list heads tails ihHeads ihTails =>
    rw [slots_list] at separate
    refine recovers_of_list regular.length_tails_le separate (full _ (mem_parts_self _))
      (fun t mem => ?_) fun t mem => ?_
    · have sub : t.parts ⊆ (list heads tails).parts := parts_subset_heads mem
      have separate := separate.of_sublist (slots_sublist_of_mem (List.mem_append_left _ mem))
      exact ihHeads t mem (regular.of_subset sub) separate (full.of_subset sub)
    · have sub : t.parts ⊆ (list heads tails).parts := parts_subset_tails mem
      have separate := separate.of_sublist (slots_sublist_of_mem (List.mem_append_right _ mem))
      exact ihTails t mem (regular.of_subset sub) separate (full.of_subset sub)

/-- Without attributes, what a regular template has built, and no tail of it an empty list,
it takes apart into the children. -/
theorem exists_decompose_of_build {t : Template} (regular : Regular t) (plain : AttributeFree t)
    (full : FullTails children t) {v : Value} (builds : t.build children = .ok v) :
    ∃ flat, t.decompose children.length (.value v) = .ok flat ∧ flat.Restores children := by
  have bare : ∀ slot ∈ t.slots, slot.2 = none := fun slot mem => plain _ (mem_slots.mp mem)
  have separate : Separate t.slots := by
    refine ⟨fun slot mem byAttribute => absurd (bare slot mem) byAttribute, ?_⟩
    rw [List.filter_eq_nil_iff.mpr fun slot mem => by simp [bare slot mem]]
    exact List.nodup_nil
  obtain ⟨flat, apart, projects⟩ := recovers regular separate full v builds
  refine ⟨flat, apart, fun i fragment set => ?_⟩
  have asked := projects i
  rw [set] at asked
  cases asked with
  | whole _ isChild => exact ⟨_, isChild, rfl⟩
  | attributes mem => cases bare _ mem

/-- **Taking apart undoes building.** What a regular template with separate slots has built,
and no tail of it an empty list, it takes apart without any conflict: to the child itself
where a slot names it, to the attributes of the child that are named and no others where
slots name those, and to nothing anywhere else. -/
theorem decompose_undoes_build {t : Template} (regular : Regular t) (separate : Separate t.slots)
    (full : FullTails children t) {v : Value} (builds : t.build children = .ok v) :
    ∃ flat, t.decompose children.length (.value v) = .ok flat ∧ flat.width = children.length ∧
      (∀ i, (i, none) ∈ t.slots →
        ∃ child, children[i]? = some child ∧ flat.get? i = some (.value child)) ∧
      (∀ i attr, (i, some attr) ∈ t.slots →
        ∃ child part, children[i]? = some child ∧ flat.get? i = some (.fields part) ∧
          (∀ key, (i, some key) ∈ t.slots → child.field? key ≠ none) ∧
          ∀ key, part.get? key = if (i, some key) ∈ t.slots then child.field? key else none) ∧
      ∀ i, i ∉ t.indexes → flat.get? i = none := by
  obtain ⟨flat, apart, projects⟩ := recovers regular separate full v builds
  refine ⟨flat, apart, width_of_decompose apart, fun i named => ?_, fun i attr named => ?_,
    fun i unnamed => ?_⟩
  · exact (projects i).exists_whole separate named
  · exact (projects i).exists_attributes separate named
  · exact (get?_eq_none_iff apart).mpr unnamed

/-- The first child is named twice and the second by two of its three attributes, and a
list has a head and a tail. -/
theorem decompose_undoes_build_nested :
    let t := record "S" [.computed "a" (list [slot 0 none, slot 1 (some "k")] [slot 2 none]),
      .computed "b" (slot 0 none), .computed "c" (slot 1 (some "j")), .fixed "d" (.str "x")]
    let children := [Value.null,
      .record "T" (FieldMap.ofList [("i", .null), ("j", .str "p"), ("k", .str "q")]),
      .list [.str "r", .null]]
    let v := Value.record "S" (FieldMap.ofList [("a", .list [.null, .str "q", .str "r", .null]),
      ("b", .null), ("c", .str "p"), ("d", .str "x")])
    Regular t ∧ Separate t.slots ∧ FullTails children t ∧ t.build children = .ok v ∧
      ∃ flat, t.decompose 3 (.value v) = .ok flat ∧ flat.width = 3 ∧
        flat.get? 2 = some (.value (.list [.str "r", .null])) := by
  intro t children v
  have regular : Regular t := by decide
  have separate : Separate t.slots := by decide
  have full : FullTails children t := by
    simp [FullTails, t, children, parts, partsOfFields, partsOfField, partsOfEach, tails, build,
      pick]
  have builds : t.build children = .ok v := by rfl
  refine ⟨regular, separate, full, builds, ?_⟩
  obtain ⟨flat, apart, width, whole, -⟩ := decompose_undoes_build regular separate full builds
  obtain ⟨child, isChild, given⟩ := whole 2 (by decide)
  cases isChild
  exact ⟨flat, apart, width, given⟩

end Template
end ReversibleGrammar
