/-
# The algebra of unions

Unions succeed or fail position by position, so their laws are those of what a single
position merges. There, merging does not ask in which order two contents come, nor how
three are grouped: equal values stay what they are, and records without a common key
are merged to one that has the keys of both. Hence unions form a partial commutative
monoid in which also the failures do not depend on order and grouping. A unit is any
assignment that gives nothing and is not wider, and an assignment can be united with
itself unless it gives a record with a field, whose key would then be set twice.

Key definitions: `FieldMap.Disjoint`.
Key theorems: `Assignment.Merges.symm`, `Assignment.Merges.assoc`, `Assignment.union_eq_ok_iff`,
`Assignment.exists_union_iff`, `Assignment.union_comm`, `Assignment.union_assoc`,
`Assignment.union_self_eq_ok_iff`, `Assignment.unions_form_partial_monoid`.
-/
import ReversibleGrammar.Proofs.Assignment.Union

namespace ReversibleGrammar

/-! ### Merging field maps -/

namespace FieldMap

variable {α : Type} {a b c : FieldMap α}

/-- No name has a value in both maps. -/
def Disjoint (a b : FieldMap α) : Prop :=
  ∀ key, a.get? key = none ∨ b.get? key = none

theorem Disjoint.symm (h : Disjoint a b) : Disjoint b a :=
  fun key => (h key).symm

theorem merge_comm (h : Disjoint a b) : merge a b = merge b a := by
  refine FieldChain.ext _ _ fun key => ?_
  rw [get?_merge, get?_merge]
  rcases h key with none | none <;> simp [none]

theorem merge_assoc (a b c : FieldMap α) : merge (merge a b) c = merge a (merge b c) := by
  refine FieldChain.ext _ _ fun key => ?_
  simp only [get?_merge, Option.or_assoc]

theorem merge_self (a : FieldMap α) : merge a a = a := by
  refine FieldChain.ext _ _ fun key => ?_
  rw [get?_merge, Option.or_self]

theorem disjoint_merge_iff : Disjoint (merge a b) c ↔ Disjoint a c ∧ Disjoint b c := by
  simp only [Disjoint, get?_merge, Option.or_eq_none_iff]
  constructor
  · intro h
    exact ⟨fun key => (h key).imp_left And.right, fun key => (h key).imp_left And.left⟩
  · rintro ⟨first, second⟩ key
    rcases first key with absent | absent
    · exact (second key).imp_left fun absent' => ⟨absent', absent⟩
    · exact .inr absent

theorem isEmpty_iff {fields : FieldMap α} :
    fields.isEmpty = true ↔ ∀ key, fields.get? key = none := by
  cases fields with
  | nil => exact ⟨fun _ _ => rfl, fun _ => rfl⟩
  | cons name _ value _ =>
    refine ⟨fun empty => Bool.noConfusion empty, fun unset => ?_⟩
    have := unset name
    simp [FieldChain.get?] at this

/-- Only the map without fields has no name in common with itself. -/
theorem disjoint_self_iff : Disjoint a a ↔ a.isEmpty = true := by
  simp only [Disjoint, or_self, isEmpty_iff]

end FieldMap

/-- Records share no key exactly when they are disjoint. -/
theorem PartialRecord.sharedKey?_eq_none_iff {a b : PartialRecord} :
    a.sharedKey? b = none ↔ FieldMap.Disjoint a b :=
  sharedKey?_eq_none

namespace Assignment

/-! ### One position -/

theorem joins_fields_iff {a b : PartialRecord} {result : Fragment} :
    Joins (some (.fields a)) (.fields b) result ↔
      FieldMap.Disjoint a b ∧ result = .fields (FieldMap.merge a b) := by
  rw [← PartialRecord.sharedKey?_eq_none_iff]
  constructor
  · intro joins
    cases joins with
    | merged free => exact ⟨free, rfl⟩
  · rintro ⟨free, rfl⟩
    exact .merged free

variable {x y z u w : Option Fragment}

theorem merges_none_iff : Merges x none z ↔ z = x := by
  constructor
  · intro merges
    cases merges with
    | kept => rfl
  · rintro rfl
    exact .kept

theorem merges_some_iff {incoming : Fragment} :
    Merges x (some incoming) z ↔ ∃ result, z = some result ∧ Joins x incoming result := by
  constructor
  · intro merges
    cases merges with
    | joined joins => exact ⟨_, rfl, joins⟩
  · rintro ⟨result, rfl, joins⟩
    exact .joined joins

/-- Two contents merge to one result at most. -/
theorem Merges.unique (first : Merges x y z) (second : Merges x y w) : z = w := by
  cases first with
  | kept => exact (merges_none_iff.mp second).symm
  | joined joins =>
    obtain ⟨result, rfl, joins'⟩ := merges_some_iff.mp second
    cases joins with
    | unset =>
      cases joins'
      rfl
    | same =>
      cases joins'
      rfl
    | merged => rw [(joins_fields_iff.mp joins').2]

/-- Merging does not ask which content comes first. -/
theorem Merges.symm (merges : Merges x y z) : Merges y x z := by
  cases merges with
  | kept =>
    cases x with
    | none => exact .kept
    | some held => exact .joined (.unset held)
  | joined joins =>
    cases joins with
    | unset => exact .kept
    | same v => exact .joined (.same v)
    | merged free =>
      have disjoint := PartialRecord.sharedKey?_eq_none_iff.mp free
      exact .joined (joins_fields_iff.mpr ⟨disjoint.symm, by rw [FieldMap.merge_comm disjoint]⟩)

theorem none_merges_iff : Merges none y z ↔ z = y :=
  ⟨fun merges => merges_none_iff.mp merges.symm, fun same => (merges_none_iff.mpr same).symm⟩

/-- Nor does it ask how three contents are grouped. -/
theorem Merges.assoc (first : Merges x y u) (second : Merges u z w) :
    ∃ v, Merges y z v ∧ Merges x v w := by
  cases first with
  | kept => exact ⟨z, none_merges_iff.mpr rfl, second⟩
  | joined joins =>
    cases second with
    | kept => exact ⟨_, .kept, .joined joins⟩
    | joined joins' =>
      cases joins with
      | unset => exact ⟨_, .joined joins', none_merges_iff.mpr rfl⟩
      | same v =>
        cases joins' with
        | same => exact ⟨_, .joined (.same v), .joined (.same v)⟩
      | @merged a b free =>
        cases joins' with
        | @merged _ c free' =>
          have disjoint := PartialRecord.sharedKey?_eq_none_iff.mp free
          obtain ⟨ac, bc⟩ :=
            FieldMap.disjoint_merge_iff.mp (PartialRecord.sharedKey?_eq_none_iff.mp free')
          have disjoint' : FieldMap.Disjoint a (FieldMap.merge b c) :=
            (FieldMap.disjoint_merge_iff.mpr ⟨disjoint.symm, ac.symm⟩).symm
          refine ⟨_, .joined (joins_fields_iff.mpr ⟨bc, rfl⟩), .joined (joins_fields_iff.mpr ?_)⟩
          exact ⟨disjoint', by rw [FieldMap.merge_assoc]⟩

/-- What a position holds merges with itself unless it is a record with a field. -/
theorem merges_self_iff :
    Merges x x z ↔ z = x ∧ ∀ part, x = some (.fields part) → part.isEmpty = true := by
  cases x with
  | none => simp [merges_none_iff]
  | some fragment =>
    rw [merges_some_iff]
    cases fragment with
    | value v =>
      constructor
      · rintro ⟨result, rfl, joins⟩
        cases joins
        simp
      · rintro ⟨rfl, -⟩
        exact ⟨_, rfl, .same v⟩
    | fields part =>
      simp only [joins_fields_iff, FieldMap.disjoint_self_iff, FieldMap.merge_self, Option.some.injEq,
        Fragment.fields.injEq, forall_eq']
      constructor
      · rintro ⟨_, rfl, empty, rfl⟩
        exact ⟨rfl, empty⟩
      · rintro ⟨rfl, empty⟩
        exact ⟨_, rfl, empty, rfl⟩

/-! ### All positions -/

variable {a b c d : Assignment}

/-- An assignment is its width and what it gives each position. -/
theorem ext_of_get? (sameWidth : a.width = b.width) (same : ∀ i, a.get? i = b.get? i) : a = b := by
  obtain ⟨places⟩ := a
  obtain ⟨others⟩ := b
  congr
  refine List.ext_getElem sameWidth fun i inside inside' => ?_
  have same := same i
  simpa only [get?, List.getElem?_eq_getElem inside, List.getElem?_eq_getElem inside',
    Option.join_some] using same

/-- There is a union exactly when all positions can be merged. -/
theorem exists_union_iff :
    (∃ c, a.union b = .ok c) ↔ ∀ i, ∃ z, Merges (a.get? i) (b.get? i) z := by
  constructor
  · rintro ⟨c, h⟩ i
    exact ⟨_, merges_of_union h i⟩
  · intro merges
    refine exists_union fun i incoming given => ?_
    obtain ⟨z, merges⟩ := merges i
    rw [given] at merges
    obtain ⟨result, -, joins⟩ := merges_some_iff.mp merges
    exact ⟨result, joins⟩

/-- A union has the width of the wider assignment, and each position holds what is merged there. -/
theorem union_eq_ok_iff : a.union b = .ok c ↔
    c.width = max a.width b.width ∧ ∀ i, Merges (a.get? i) (b.get? i) (c.get? i) := by
  constructor
  · intro h
    exact ⟨width_of_union h, merges_of_union h⟩
  · rintro ⟨width, merges⟩
    obtain ⟨c', h⟩ := exists_union_iff.mpr fun i => ⟨_, merges i⟩
    have sameWidth : c'.width = c.width := by rw [width_of_union h, width]
    have same : ∀ i, c'.get? i = c.get? i := fun i => (merges_of_union h i).unique (merges i)
    rw [h, ext_of_get? sameWidth same]

theorem union_comm : a.union b = .ok c ↔ b.union a = .ok c := by
  rw [union_eq_ok_iff, union_eq_ok_iff, Nat.max_comm]
  exact and_congr_right fun _ => forall_congr' fun i => ⟨Merges.symm, Merges.symm⟩

/-- What is united from the left can be united from the right. -/
theorem exists_union_right {x : Assignment} (first : a.union b = .ok x)
    (second : x.union c = .ok d) : ∃ y, b.union c = .ok y ∧ a.union y = .ok d := by
  have regroup : ∀ i, ∃ v, Merges (b.get? i) (c.get? i) v ∧ Merges (a.get? i) v (d.get? i) :=
    fun i => (merges_of_union first i).assoc (merges_of_union second i)
  obtain ⟨y, h⟩ := exists_union_iff.mpr fun i => (regroup i).imp fun _ => And.left
  refine ⟨y, h, union_eq_ok_iff.mpr ⟨?_, fun i => ?_⟩⟩
  · calc d.width = max (max a.width b.width) c.width := by
          rw [width_of_union second, width_of_union first]
      _ = max a.width y.width := by rw [width_of_union h, Nat.max_assoc]
  · obtain ⟨v, merges, merges'⟩ := regroup i
    rwa [(merges_of_union h i).unique merges]

theorem union_assoc : (∃ x, a.union b = .ok x ∧ x.union c = .ok d) ↔
    ∃ y, b.union c = .ok y ∧ a.union y = .ok d := by
  constructor
  · rintro ⟨x, first, second⟩
    exact exists_union_right first second
  · rintro ⟨y, first, second⟩
    obtain ⟨x, first, second⟩ := exists_union_right (union_comm.mp first) (union_comm.mp second)
    exact ⟨x, union_comm.mp first, union_comm.mp second⟩

/-- An assignment that gives nothing and is not wider changes nothing. -/
theorem union_unset (unset : ∀ i, b.get? i = none) (fits : b.width ≤ a.width) :
    a.union b = .ok a := by
  refine union_eq_ok_iff.mpr ⟨(Nat.max_eq_left fits).symm, fun i => ?_⟩
  rw [unset i]
  exact .kept

/-- A union with itself is no other assignment, and there is one unless a position is given
a record with a field. -/
theorem union_self_eq_ok_iff : a.union a = .ok c ↔
    c = a ∧ ∀ i part, a.get? i = some (.fields part) → part.isEmpty = true := by
  rw [union_eq_ok_iff, Nat.max_self]
  simp only [merges_self_iff]
  constructor
  · rintro ⟨width, merges⟩
    exact ⟨ext_of_get? width fun i => (merges i).1, fun i => (merges i).2⟩
  · rintro ⟨rfl, empty⟩
    exact ⟨rfl, fun i => ⟨rfl, empty i⟩⟩

/-- **Unions form a partial commutative monoid.** Neither their results nor their failures
depend on order and grouping, an assignment that gives nothing and is not wider is a unit, and
an assignment is its own union with itself, or has none, if a position is given a record with
a field. -/
theorem unions_form_partial_monoid :
    (∀ a b c : Assignment, a.union b = .ok c ↔ b.union a = .ok c) ∧
    (∀ a b c d : Assignment, (∃ x, a.union b = .ok x ∧ x.union c = .ok d) ↔
      ∃ y, b.union c = .ok y ∧ a.union y = .ok d) ∧
    (∀ a e : Assignment, (∀ i, e.get? i = none) → e.width ≤ a.width →
      a.union e = .ok a ∧ e.union a = .ok a) ∧
    (∀ a : Assignment, a.union a = .ok a ↔
      ∀ i part, a.get? i = some (.fields part) → part.isEmpty = true) ∧
    (∀ a : Assignment, (∃ cause, a.union a = .error cause) ↔
      ∃ i part, a.get? i = some (.fields part) ∧ part.isEmpty = false) := by
  refine ⟨fun _ _ _ => union_comm, fun _ _ _ _ => union_assoc, fun a e unset fits => ?_,
    fun a => ?_, fun a => ?_⟩
  · have unit := union_unset unset fits
    exact ⟨unit, union_comm.mp unit⟩
  · simp [union_self_eq_ok_iff]
  · rw [exists_eq_error_iff]
    simp [union_self_eq_ok_iff]

/-- The record at the first position is left alone by a narrower blank, on either side, and
clashes with itself. -/
theorem blank_is_unit_of_record :
    let a : Assignment := ⟨[some (.fields (FieldMap.single "k" (.str "x"))), none]⟩
    (∀ i, (blank 1).get? i = none) ∧ (blank 1).width ≤ a.width ∧ a.union (blank 1) = .ok a ∧
      (blank 1).union a = .ok a ∧ ∃ cause, a.union a = .error cause := by
  intro a
  obtain ⟨-, -, unit, -, fails⟩ := unions_form_partial_monoid
  have fits : (blank 1).width ≤ a.width := by decide
  obtain ⟨left, right⟩ := unit a (blank 1) (get?_blank 1) fits
  exact ⟨get?_blank 1, fits, left, right, (fails a).mpr ⟨0, _, rfl, rfl⟩⟩

end Assignment
end ReversibleGrammar
