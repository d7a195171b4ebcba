/-
# Unions of assignments

What an assignment made of two holds at a position is what one of them holds
there, or what both hold joined. A join succeeds where nothing is held yet,
where both are the same value, and where both are partial records without a
common key. There is a union if the two can be joined at every position.

Key definitions: `Assignment.Joins`, `Assignment.Merges`.
Key theorems: `Assignment.join_eq_ok_iff`, `Assignment.merges_of_union`,
`Assignment.exists_union`, `Assignment.width_of_union`, `Assignment.get?_of_single`,
`Assignment.forall_of_union`.
-/
import ReversibleGrammar.Assignment
import ReversibleGrammar.Proofs.Success

namespace ReversibleGrammar
namespace Assignment

/-! ### One position -/

/-- What a place holds and what it is given agree, and together they are the result. -/
inductive Joins : Option Fragment → Fragment → Fragment → Prop
  | unset (incoming : Fragment) : Joins none incoming incoming
  | same (v : Value) : Joins (some (.value v)) (.value v) (.value v)
  | merged {a b : PartialRecord} (free : a.sharedKey? b = none) :
      Joins (some (.fields a)) (.fields b) (.fields (FieldMap.merge a b))

theorem join_eq_ok_iff {position : Nat} {held : Option Fragment} {incoming result : Fragment} :
    join position held incoming = .ok result ↔ Joins held incoming result := by
  constructor
  · intro h
    unfold join at h
    split at h
    · cases h
      exact .unset _
    · rename_i a b
      unfold PartialRecord.union at h
      split at h
      · cases h
      · rename_i free
        cases h
        exact .merged free
    · split at h
      · rename_i same
        cases same
        cases h
        exact .same _
      · cases h
    · cases h
  · intro h
    cases h with
    | unset => rfl
    | same v => simp [join]
    | merged free => simp [join, PartialRecord.union, free, Except.map]

/-! ### Blank assignments and assignments of one position -/

theorem get?_blank (width i : Nat) : (blank width).get? i = none := by
  unfold blank get?
  rw [List.getElem?_replicate]
  split <;> rfl

theorem single_eq_ok_iff {width position : Nat} {fragment : Fragment} {a : Assignment} :
    single width position fragment = .ok a ↔
      position < width ∧ a = ⟨(List.replicate width none).set position (some fragment)⟩ := by
  unfold single set blank
  by_cases inside : position < width
  · simp [inside, join, eq_comm]
  · simp [inside]

theorem single_eq_error_iff {width position : Nat} {fragment : Fragment} {cause : TemplateFault} :
    single width position fragment = .error cause ↔
      width ≤ position ∧ cause = .noChild position width := by
  unfold single set blank
  by_cases inside : position < width
  · simp [inside, join, Nat.not_le.mpr inside]
  · simp [inside, Assignment.width, eq_comm, Nat.not_lt.mp inside]

theorem width_of_single {width position : Nat} {fragment : Fragment} {a : Assignment}
    (h : single width position fragment = .ok a) : a.width = width := by
  obtain ⟨-, rfl⟩ := single_eq_ok_iff.mp h
  simp [Assignment.width]

theorem get?_of_single {width position : Nat} {fragment : Fragment} {a : Assignment}
    (h : single width position fragment = .ok a) (i : Nat) :
    a.get? i = if position = i then some fragment else none := by
  obtain ⟨inside, rfl⟩ := single_eq_ok_iff.mp h
  unfold get?
  rw [List.getElem?_set, List.length_replicate]
  split
  · simp
  · exact get?_blank width i

/-! ### All positions -/

/-- What a place of a union holds, given what the two assignments hold there. -/
inductive Merges (held : Option Fragment) : Option Fragment → Option Fragment → Prop
  | kept : Merges held none held
  | joined {incoming result : Fragment} (joins : Joins held incoming result) :
      Merges held (some incoming) (some result)

theorem length_of_unionFrom {position : Nat} {places others joined : List (Option Fragment)}
    (h : unionFrom position places others = .ok joined) :
    joined.length = max places.length others.length := by
  fun_induction unionFrom position places others generalizing joined with
  | case1 => cases h; simp
  | case2 => cases h; simp
  | case3 _ held rest others ih =>
    obtain ⟨tail, ok, rfl⟩ := map_eq_ok_iff.mp h
    simp [ih ok, Nat.add_max_add_right]
  | case4 => cases h
  | case5 _ held rest incoming others result _ ih =>
    obtain ⟨tail, ok, rfl⟩ := map_eq_ok_iff.mp h
    simp [ih ok, Nat.add_max_add_right]

theorem merges_of_unionFrom {position : Nat} {places others joined : List (Option Fragment)}
    (h : unionFrom position places others = .ok joined) (i : Nat) :
    Merges places[i]?.join others[i]?.join joined[i]?.join := by
  fun_induction unionFrom position places others generalizing joined i with
  | case1 => cases h; exact .kept
  | case2 _ places =>
    cases h
    cases places[i]?.join with
    | none => exact .kept
    | some incoming => exact .joined (.unset incoming)
  | case3 _ held rest others ih =>
    obtain ⟨tail, ok, rfl⟩ := map_eq_ok_iff.mp h
    cases i with
    | zero => exact .kept
    | succ i => exact ih ok i
  | case4 => cases h
  | case5 _ held rest incoming others result joins ih =>
    obtain ⟨tail, ok, rfl⟩ := map_eq_ok_iff.mp h
    cases i with
    | zero => exact .joined (join_eq_ok_iff.mp joins)
    | succ i => exact ih ok i

theorem exists_unionFrom {position : Nat} {places others : List (Option Fragment)}
    (joins : ∀ (i : Nat) incoming, others[i]?.join = some incoming →
      ∃ result, Joins places[i]?.join incoming result) :
    ∃ joined, unionFrom position places others = .ok joined := by
  fun_induction unionFrom position places others with
  | case1 _ places => exact ⟨places, rfl⟩
  | case2 _ others => exact ⟨others, rfl⟩
  | case3 _ held rest others ih =>
    obtain ⟨joined, h⟩ := ih fun i => joins (i + 1)
    exact ⟨held :: joined, by rw [h]; rfl⟩
  | case4 _ held rest incoming others fault conflict =>
    obtain ⟨result, joins⟩ := joins 0 incoming rfl
    rw [join_eq_ok_iff.mpr (show Joins held incoming result from joins)] at conflict
    cases conflict
  | case5 _ held rest incoming others result _ ih =>
    obtain ⟨joined, h⟩ := ih fun i => joins (i + 1)
    exact ⟨some result :: joined, by rw [h]; rfl⟩

/-- The wider assignment gives the width. -/
theorem width_of_union {a b c : Assignment} (h : a.union b = .ok c) :
    c.width = max a.width b.width := by
  obtain ⟨places, ok, rfl⟩ := map_eq_ok_iff.mp h
  exact length_of_unionFrom ok

/-- What a union holds at a position. -/
theorem merges_of_union {a b c : Assignment} (h : a.union b = .ok c) (i : Nat) :
    Merges (a.get? i) (b.get? i) (c.get? i) := by
  obtain ⟨places, ok, rfl⟩ := map_eq_ok_iff.mp h
  exact merges_of_unionFrom ok i

/-- A union is unset where both parts are. -/
theorem get?_of_union_eq_none_iff {a b c : Assignment} (h : a.union b = .ok c) {i : Nat} :
    c.get? i = none ↔ a.get? i = none ∧ b.get? i = none := by
  have merges := merges_of_union h i
  generalize a.get? i = held, b.get? i = given, c.get? i = result at merges
  cases merges with
  | kept => simp
  | joined => simp

/-! ### What holds of all that is given -/

section All

variable {P : Nat → Fragment → Prop}

theorem forall_blank (width : Nat) :
    ∀ i fragment, (blank width).get? i = some fragment → P i fragment := by
  intro i fragment set
  rw [get?_blank] at set
  cases set

theorem forall_of_single {width position : Nat} {fragment : Fragment} {a : Assignment}
    (h : single width position fragment = .ok a) (given : P position fragment) :
    ∀ i fragment, a.get? i = some fragment → P i fragment := by
  intro i other set
  rw [get?_of_single h] at set
  split at set
  · rename_i same
    cases same
    cases set
    exact given
  · cases set

/-- What holds of all that two assignments give, and of a merge if it does of both records,
holds of all that their union gives. -/
theorem forall_of_union (merged : ∀ {i : Nat} {a b : PartialRecord},
      P i (.fields a) → P i (.fields b) → P i (.fields (FieldMap.merge a b)))
    {a b c : Assignment} (h : a.union b = .ok c)
    (ha : ∀ i fragment, a.get? i = some fragment → P i fragment)
    (hb : ∀ i fragment, b.get? i = some fragment → P i fragment) :
    ∀ i fragment, c.get? i = some fragment → P i fragment := by
  intro i fragment set
  have merges := merges_of_union h i
  rw [set] at merges
  generalize held : a.get? i = x, given : b.get? i = y at merges
  cases merges with
  | kept => exact ha i fragment held
  | joined joins =>
    cases joins with
    | unset => exact hb i fragment given
    | same v => exact ha i _ held
    | merged free => exact merged (ha i _ held) (hb i _ given)

end All

/-- No position is given a partial record. -/
def Whole (a : Assignment) : Prop :=
  ∀ i fragment, a.get? i = some fragment → ∃ v, fragment = .value v

theorem whole_blank (width : Nat) : (blank width).Whole :=
  forall_blank width

theorem whole_of_union {a b c : Assignment} (h : a.union b = .ok c) (ha : a.Whole) (hb : b.Whole) :
    c.Whole :=
  forall_of_union (fun isValue _ => by obtain ⟨v, same⟩ := isValue; cases same) h ha hb

/-- Only some positions are given anything. -/
def Within (positions : List Nat) (a : Assignment) : Prop :=
  ∀ i fragment, a.get? i = some fragment → i ∈ positions

theorem within_blank (positions : List Nat) (width : Nat) : (blank width).Within positions :=
  forall_blank width

theorem within_of_single {positions : List Nat} {width position : Nat} {fragment : Fragment}
    {a : Assignment} (h : single width position fragment = .ok a) (mem : position ∈ positions) :
    a.Within positions :=
  forall_of_single h mem

theorem within_of_union {positions : List Nat} {a b c : Assignment} (h : a.union b = .ok c)
    (ha : a.Within positions) (hb : b.Within positions) : c.Within positions :=
  forall_of_union (fun mem _ => mem) h ha hb

theorem Within.mono {positions others : List Nat} {a : Assignment} (h : a.Within positions)
    (sub : positions ⊆ others) : a.Within others :=
  fun i fragment set => sub (h i fragment set)

/-- Two assignments that agree wherever both hold something have a union. -/
theorem exists_union {a b : Assignment} (joins : ∀ i incoming, b.get? i = some incoming →
    ∃ result, Joins (a.get? i) incoming result) : ∃ c, a.union b = .ok c := by
  have : ∃ places, unionFrom 0 a.places b.places = .ok places := exists_unionFrom joins
  obtain ⟨places, ok⟩ := this
  exact ⟨⟨places⟩, map_eq_ok_iff.mpr ⟨places, ok, rfl⟩⟩

end Assignment
end ReversibleGrammar
