/-
# Assignments that children satisfy

A fragment describes a child if the child is the value it gives, up to a tolerance,
or has the fields it gives. An assignment holds of the children of a rule if each
position that is set describes its child. A union holds just where both parts do.

Key definitions: `Fragment.Describes`, `Assignment.Holds`.
Key theorems: `Assignment.holds_of_union_iff`, `Assignment.holds_of_single_iff`,
`Assignment.holds_cons_iff`.
-/
import ReversibleGrammar.Proofs.Assignment.Union
import ReversibleGrammar.Proofs.FieldMap.Names

namespace ReversibleGrammar

variable {R : Value → Value → Prop} {children : List Value}

/-- The child is what the fragment gives, up to `R`; a partial record gives some of
its fields. -/
def Fragment.Describes (R : Value → Value → Prop) : Fragment → Value → Prop
  | .value v, child => R v child
  | .fields part, child => ∀ key v, part.get? key = some v →
      ∃ held, child.field? key = some held ∧ R v held

theorem Fragment.describes_single_iff {attr : String} {v child : Value} :
    (Fragment.fields (FieldMap.single attr v)).Describes R child ↔
      ∃ held, child.field? attr = some held ∧ R v held := by
  constructor
  · intro h
    exact h attr v (by rw [FieldMap.get?_single, if_pos rfl])
  · intro h key w found
    rw [FieldMap.get?_single] at found
    split at found
    · rename_i same
      cases same
      cases found
      exact h
    · cases found

namespace Assignment

/-- What a join describes is what both parts describe. -/
theorem Joins.describes_iff {held : Option Fragment} {incoming result : Fragment} {child : Value}
    (joins : Joins held incoming result) : result.Describes R child ↔
      (∀ fragment, held = some fragment → fragment.Describes R child) ∧
        incoming.Describes R child := by
  cases joins with
  | unset => simp
  | same v => simp
  | @merged a b free =>
    have disjoint := PartialRecord.sharedKey?_eq_none.mp free
    simp only [Fragment.Describes, Option.some.injEq, forall_eq', FieldMap.get?_merge]
    constructor
    · intro h
      constructor
      · intro key v found
        refine h key v ?_
        rcases disjoint key with none | none
        · rw [none] at found
          cases found
        · rw [none, Option.none_or, found]
      · intro key v found
        exact h key v (by rw [found, Option.some_or])
    · rintro ⟨left, right⟩ key v found
      rcases Option.or_eq_some_iff.mp found with found | ⟨-, found⟩
      · exact right key v found
      · exact left key v found

/-- Each position that is set describes its child. -/
def Holds (R : Value → Value → Prop) (children : List Value) (a : Assignment) : Prop :=
  ∀ i fragment, a.get? i = some fragment →
    ∃ child, children[i]? = some child ∧ fragment.Describes R child

theorem holds_blank (width : Nat) : (blank width).Holds R children := by
  intro i fragment set
  rw [get?_blank] at set
  cases set

theorem holds_of_single_iff {width position : Nat} {fragment : Fragment} {a : Assignment}
    (h : single width position fragment = .ok a) : a.Holds R children ↔
      ∃ child, children[position]? = some child ∧ fragment.Describes R child := by
  constructor
  · intro holds
    exact holds position fragment (by rw [get?_of_single h, if_pos rfl])
  · intro described i other set
    rw [get?_of_single h] at set
    split at set
    · rename_i same
      cases same
      cases set
      exact described
    · cases set

/-- A union holds of the children of which both parts hold. -/
theorem holds_of_union_iff {a b c : Assignment} (h : a.union b = .ok c) :
    c.Holds R children ↔ a.Holds R children ∧ b.Holds R children := by
  have merges := merges_of_union h
  constructor
  · intro holds
    constructor
    · intro i fragment set
      have merges := merges i
      rw [set] at merges
      generalize hb : b.get? i = given, hc : c.get? i = result at merges
      cases merges with
      | kept => exact holds i fragment hc
      | joined joins =>
        obtain ⟨child, isChild, described⟩ := holds i _ hc
        exact ⟨child, isChild, (joins.describes_iff.mp described).1 fragment rfl⟩
    · intro i fragment set
      have merges := merges i
      rw [set] at merges
      generalize hc : c.get? i = result at merges
      cases merges with
      | joined joins =>
        obtain ⟨child, isChild, described⟩ := holds i _ hc
        exact ⟨child, isChild, (joins.describes_iff.mp described).2⟩
  · rintro ⟨left, right⟩ i fragment set
    have merges := merges i
    rw [set] at merges
    generalize ha : a.get? i = held, hb : b.get? i = given at merges
    cases merges with
    | kept => exact left i fragment ha
    | joined joins =>
      obtain ⟨child, isChild, described⟩ := right i _ hb
      refine ⟨child, isChild, joins.describes_iff.mpr ⟨?_, described⟩⟩
      intro other set
      obtain ⟨child', isChild', described'⟩ := left i other (by rw [ha, set])
      cases isChild.symm.trans isChild'
      exact described'

/-- Of a first position and the others. -/
theorem holds_cons_iff {given : Option Fragment} {places : List (Option Fragment)} {child : Value} :
    Holds R (child :: children) ⟨given :: places⟩ ↔
      (∀ fragment, given = some fragment → fragment.Describes R child) ∧
        Holds R children ⟨places⟩ := by
  constructor
  · intro holds
    constructor
    · intro fragment set
      obtain ⟨child', isChild, described⟩ := holds 0 fragment set
      cases isChild
      exact described
    · intro i fragment set
      exact holds (i + 1) fragment set
  · rintro ⟨first, others⟩ i fragment set
    cases i with
    | zero => exact ⟨child, rfl, first fragment set⟩
    | succ i => exact others i fragment set

end Assignment
end ReversibleGrammar
