/-
# Built values

What a template has built tells what its parts have built: the fields of a record,
if no two have one name, each the value under its name, and the heads and tails of
a list its items. And a template builds where all its parts do, the tails lists.

Key definitions: `Template.Made`.
Key theorems: `Template.build_record_eq_ok_iff`, `Template.build_list_eq_ok_iff`.
-/
import Mathlib.Data.List.Forall2
import ReversibleGrammar.Proofs.FieldMap.Names
import ReversibleGrammar.Proofs.Success
import ReversibleGrammar.Template.Building

namespace ReversibleGrammar
namespace Template

variable {children : List Value}

theorem pick_none_eq_ok_iff {index : Nat} {v : Value} :
    pick children index none = .ok v ↔ children[index]? = some v := by
  unfold pick
  cases children[index]? <;> simp

theorem pick_some_eq_ok_iff {index : Nat} {attr : String} {v : Value} :
    pick children index (some attr) = .ok v ↔
      ∃ child, children[index]? = some child ∧ child.field? attr = some v := by
  unfold pick
  cases children[index]? with
  | none => simp
  | some child =>
    cases h : child.field? attr <;> simp [h]

/-! ### Records -/

/-- The fields that some fields of a template make: each under its name, and no others. -/
structure Made (children : List Value) (fields : List Field) (made : FieldMap Value) : Prop where
  each : ∀ field ∈ fields, ∃ value, buildField children field = .ok value ∧
    made.get? field.name = some value
  only : ∀ key value, made.get? key = some value → key ∈ fields.map Field.name

theorem get?_of_buildFields {key : String} : ∀ {fields : List Field} {built made : FieldMap Value},
    buildFields children fields built = .ok made → key ∉ fields.map Field.name →
      made.get? key = built.get? key
  | [], _, _, h, _ => by
    rw [buildFields] at h
    cases h
    rfl
  | field :: rest, built, made, h, absent => by
    rw [buildFields] at h
    obtain ⟨value, -, h⟩ := bind_eq_ok_iff.mp h
    rw [List.map_cons, List.mem_cons, not_or] at absent
    rw [get?_of_buildFields h absent.2, FieldMap.get?_put, if_neg (Ne.symm absent.1)]

theorem exists_of_buildFields : ∀ {fields : List Field} {built made : FieldMap Value},
    buildFields children fields built = .ok made → (fields.map Field.name).Nodup →
      ∀ field ∈ fields, ∃ value, buildField children field = .ok value ∧
        made.get? field.name = some value
  | [], _, _, _, _, _, mem => nomatch mem
  | first :: rest, built, made, h, distinct, field, mem => by
    rw [buildFields] at h
    obtain ⟨value, builds, h⟩ := bind_eq_ok_iff.mp h
    obtain ⟨absent, distinct⟩ := List.nodup_cons.mp distinct
    rcases List.mem_cons.mp mem with rfl | mem
    · exact ⟨value, builds, by rw [get?_of_buildFields h absent, FieldMap.get?_put, if_pos rfl]⟩
    · exact exists_of_buildFields h distinct field mem

theorem exists_buildFields : ∀ {fields : List Field} (built : FieldMap Value),
    (∀ field ∈ fields, ∃ value, buildField children field = .ok value) →
      ∃ made, buildFields children fields built = .ok made
  | [], built, _ => ⟨built, by rw [buildFields]⟩
  | field :: rest, built, each => by
    obtain ⟨⟨value, builds⟩, others⟩ := List.forall_mem_cons.mp each
    obtain ⟨made, h⟩ := exists_buildFields (built.put field.name value) others
    exact ⟨made, by rw [buildFields, builds]; exact h⟩

/-- The value of a record template, whose fields have distinct names, is the record of
what they make. -/
theorem build_record_eq_ok_iff {tag : String} {fields : List Field} {v : Value}
    (distinct : (fields.map Field.name).Nodup) :
    build children (record tag fields) = .ok v ↔
      ∃ made, v = .record tag made ∧ Made children fields made := by
  rw [build, bind_eq_ok_iff]
  constructor
  · rintro ⟨made, h, same⟩
    cases same
    refine ⟨made, rfl, exists_of_buildFields h distinct, fun key value found => ?_⟩
    by_contra absent
    rw [get?_of_buildFields h absent, FieldMap.get?_empty] at found
    cases found
  · rintro ⟨made, rfl, each, only⟩
    have builds : ∀ field ∈ fields, ∃ value, buildField children field = .ok value :=
      fun field mem => (each field mem).imp fun _ => And.left
    obtain ⟨made', h⟩ := exists_buildFields FieldMap.empty builds
    have same : made' = made := by
      refine FieldChain.ext _ _ fun key => ?_
      by_cases mem : key ∈ fields.map Field.name
      · obtain ⟨field, there, rfl⟩ := List.mem_map.mp mem
        obtain ⟨value, builds, found⟩ := each field there
        obtain ⟨value', builds', found'⟩ := exists_of_buildFields h distinct field there
        cases builds.symm.trans builds'
        rw [found, found']
      · rw [get?_of_buildFields h mem, FieldMap.get?_empty]
        cases found : made.get? key with
        | none => rfl
        | some value => exact absurd (only key value found) mem
    rw [same] at h
    exact ⟨made, h, rfl⟩

/-- A record made of fields with distinct names has one field for each. -/
theorem Made.size_eq {fields : List Field} {made : FieldMap Value} (h : Made children fields made)
    (distinct : (fields.map Field.name).Nodup) : made.size = fields.length := by
  have has : ∀ name ∈ fields.map Field.name, ∃ value, made.get? name = some value := by
    intro name mem
    obtain ⟨field, there, rfl⟩ := List.mem_map.mp mem
    obtain ⟨value, -, found⟩ := h.each field there
    exact ⟨value, found⟩
  rw [(FieldChain.size_eq_length_iff distinct has).mpr h.only, List.length_map]

/-! ### Lists -/

theorem buildHeads_eq_ok_iff : ∀ {heads : List Template} {items : List Value},
    buildHeads children heads = .ok items ↔
      List.Forall₂ (fun t v => build children t = .ok v) heads items
  | [], items => by
    rw [buildHeads, List.forall₂_nil_left_iff]
    constructor
    · rintro ⟨⟩
      rfl
    · rintro rfl
      rfl
  | head :: rest, items => by
    rw [buildHeads, List.forall₂_cons_left_iff]
    simp only [bind_eq_ok_iff, buildHeads_eq_ok_iff]
    constructor
    · rintro ⟨item, first, others, each, same⟩
      cases same
      exact ⟨item, others, first, each, rfl⟩
    · rintro ⟨item, others, first, each, rfl⟩
      exact ⟨item, first, others, each, rfl⟩

theorem exists_forall₂ {α β : Type} {S : α → β → Prop} : ∀ {as : List α},
    (∀ a ∈ as, ∃ b, S a b) → ∃ bs, List.Forall₂ S as bs
  | [], _ => ⟨[], .nil⟩
  | a :: rest, each => by
    obtain ⟨⟨b, first⟩, others⟩ := List.forall_mem_cons.mp each
    obtain ⟨bs, h⟩ := exists_forall₂ others
    exact ⟨b :: bs, .cons first h⟩

theorem exists_mem_of_forall₂ {α β : Type} {S : α → β → Prop} {as : List α} {bs : List β} {b : β}
    (each : List.Forall₂ S as bs) (mem : b ∈ bs) : ∃ a ∈ as, S a b := by
  induction each with
  | nil => cases mem
  | cons first _ ih =>
    rcases List.mem_cons.mp mem with rfl | mem
    · exact ⟨_, List.mem_cons_self, first⟩
    · obtain ⟨a, there, h⟩ := ih mem
      exact ⟨a, List.mem_cons_of_mem _ there, h⟩

/-- What is related to the tails of a list with one tail at most. -/
theorem forall₂_of_oneTail {S : Template → List Value → Prop} {tails : List Template}
    {lists : List (List Value)} (oneTail : tails.length ≤ 1) (each : List.Forall₂ S tails lists) :
    (tails = [] ∧ lists = []) ∨ ∃ tail l, tails = [tail] ∧ lists = [l] ∧ S tail l := by
  cases each with
  | nil => exact .inl ⟨rfl, rfl⟩
  | cons first others =>
    cases others with
    | nil => exact .inr ⟨_, _, rfl, rfl, first⟩
    | cons => simp at oneTail

theorem buildTails_eq_ok_iff : ∀ {tails : List Template} {items : List Value},
    buildTails children tails = .ok items ↔
      ∃ lists, items = lists.flatten ∧
        List.Forall₂ (fun t l => build children t = .ok (.list l)) tails lists
  | [], items => by
    rw [buildTails]
    simp [eq_comm]
  | tail :: rest, items => by
    rw [buildTails]
    simp only [List.forall₂_cons_left_iff, bind_eq_ok_iff]
    constructor
    · rintro ⟨v, first, h⟩
      cases v with
      | list l =>
        obtain ⟨others, h, same⟩ := bind_eq_ok_iff.mp h
        obtain ⟨lists, rfl, each⟩ := buildTails_eq_ok_iff.mp h
        refine ⟨l :: lists, ?_, l, lists, first, each, rfl⟩
        rw [List.flatten_cons]
        split at same
        · rename_i nothing
          cases same
          rw [List.isEmpty_iff.mp nothing, List.append_nil]
        · cases same
          rfl
      | _ => cases h
    · rintro ⟨_, rfl, l, lists, first, each, rfl⟩
      refine ⟨.list l, first, bind_eq_ok_iff.mpr
        ⟨lists.flatten, buildTails_eq_ok_iff.mpr ⟨lists, rfl, each⟩, ?_⟩⟩
      rw [List.flatten_cons]
      split
      · rename_i nothing
        rw [List.isEmpty_iff.mp nothing, List.append_nil]
        rfl
      · rfl

/-- The value of a list template is the list of what its heads build, followed by the
lists that its tails build. -/
theorem build_list_eq_ok_iff {heads tails : List Template} {v : Value} :
    build children (list heads tails) = .ok v ↔
      ∃ items lists, v = .list (items ++ lists.flatten) ∧
        List.Forall₂ (fun t v => build children t = .ok v) heads items ∧
        List.Forall₂ (fun t l => build children t = .ok (.list l)) tails lists := by
  rw [build]
  simp only [bind_eq_ok_iff, buildHeads_eq_ok_iff, buildTails_eq_ok_iff]
  constructor
  · rintro ⟨items, each, _, ⟨lists, rfl, each'⟩, same⟩
    cases same
    exact ⟨items, lists, rfl, each, each'⟩
  · rintro ⟨items, lists, rfl, each, each'⟩
    exact ⟨items, each, _, ⟨lists, rfl, each'⟩, rfl⟩

end Template
end ReversibleGrammar
