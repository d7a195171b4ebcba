/-
# Tolerances

What is read back after realizing a value may differ from it, and a tolerance says
how far. It passes through lists item by item and through records field by field,
and nothing else is asked of it. The finest one is equality. Drifting allows a marker
where null was, or the string of its token: a literal is realized from these too, and
always read as its marker.

Key definitions: `Value.Tolerance`, `Value.Drifts`.
Key theorems: `Value.tolerance_eq`, `Value.tolerance_drifts`.
-/
import Mathlib.Data.List.Forall2
import ReversibleGrammar.Value

namespace ReversibleGrammar
namespace Value

/-- A relation of values that holds of lists and records exactly when it holds of
their items and of their fields. -/
structure Tolerance (R : Value → Value → Prop) : Prop where
  refl : ∀ v, R v v
  list_iff : ∀ {items : List Value} {w : Value},
    R (.list items) w ↔ ∃ others, w = .list others ∧ List.Forall₂ R items others
  record_iff : ∀ {tag : String} {held : FieldMap Value} {w : Value},
    R (.record tag held) w ↔ ∃ made : FieldMap Value, w = .record tag made ∧
      ∀ key, Option.Rel R (held.get? key) (made.get? key)

/-- The second value is the first one with markers in place of some nulls and of
strings of their tokens. -/
inductive Drifts : Value → Value → Prop
  | same (v : Value) : Drifts v v
  | null (token : String) : Drifts .null (.word (.marker token))
  | str (token : String) : Drifts (.str token) (.word (.marker token))
  | list {items others : List Value} (each : List.Forall₂ Drifts items others) :
      Drifts (.list items) (.list others)
  | record {tag : String} {held made : FieldMap Value}
      (each : ∀ key, Option.Rel Drifts (held.get? key) (made.get? key)) :
      Drifts (.record tag held) (.record tag made)

theorem rel_refl {R : Value → Value → Prop} (refl : ∀ v, R v v) :
    ∀ o : Option Value, Option.Rel R o o
  | none => .none
  | some v => .some (refl v)

theorem rel_eq_iff {a b : Option Value} : Option.Rel Eq a b ↔ a = b := by
  constructor
  · rintro (rfl | _)
    · rfl
    · rfl
  · rintro rfl
    exact rel_refl (fun _ => rfl) a

theorem tolerance_eq : Tolerance Eq where
  refl _ := rfl
  list_iff := by
    simp only [List.forall₂_eq_eq_eq]
    intro items w
    constructor
    · rintro rfl
      exact ⟨items, rfl, rfl⟩
    · rintro ⟨others, rfl, rfl⟩
      rfl
  record_iff := by
    intro tag held w
    simp only [rel_eq_iff]
    constructor
    · rintro rfl
      exact ⟨held, rfl, fun _ => rfl⟩
    · rintro ⟨made, rfl, each⟩
      rw [FieldChain.ext held made each]

theorem tolerance_drifts : Tolerance Drifts where
  refl := .same
  list_iff := by
    intro items w
    constructor
    · rintro (_ | _ | _ | each)
      · exact ⟨items, rfl, List.forall₂_same.mpr fun v _ => .same v⟩
      · exact ⟨_, rfl, each⟩
    · rintro ⟨others, rfl, each⟩
      exact .list each
  record_iff := by
    intro tag held w
    constructor
    · rintro (_ | _ | _ | _ | each)
      · exact ⟨held, rfl, fun key => rel_refl .same _⟩
      · exact ⟨_, rfl, each⟩
    · rintro ⟨made, rfl, each⟩
      exact .record each

end Value
end ReversibleGrammar
