/-
# Setting positions one after the other

Setting a position leaves all other positions alone, whether it succeeds or not. It fails
at a position outside the assignment, which changes nothing, and where the position holds
something that does not agree with what it is given. Then both contents are lost: the
position is unset afterwards, and takes whatever it is given next.

So over a run of settings, in which failures do not stop those that follow, a value lasts
exactly until its position is given something else. That setting fails and names both
contents, but a later one can put another value in the place of the first without a
failure of its own.

Key definitions: `Assignment.replaced`, `Assignment.setAll`.
Key theorems: `Assignment.set_cases`, `Assignment.set_eq_fault_iff`,
`Assignment.value_lasts_or_conflicts`, `Assignment.failed_set_empties_position`,
`Assignment.failed_set_not_undone`.
-/
import ReversibleGrammar.Proofs.Assignment.Conflicts

namespace ReversibleGrammar
namespace Assignment

variable {a : Assignment} {i j : Nat} {fragment : Fragment} {cause : TemplateFault}

/-! ### One place replaced -/

/-- The assignment with another content at a position. -/
def replaced (a : Assignment) (i : Nat) (place : Option Fragment) : Assignment :=
  ⟨a.places.set i place⟩

theorem width_replaced (place : Option Fragment) : (a.replaced i place).width = a.width :=
  List.length_set

theorem get?_replaced (inside : i < a.width) (place : Option Fragment) :
    (a.replaced i place).get? j = if i = j then place else a.get? j := by
  have inside' : i < a.places.length := inside
  unfold replaced get?
  rw [List.getElem?_set]
  by_cases same : i = j
  · simp [same, same ▸ inside']
  · simp [same]

theorem get?_outside (outside : a.width ≤ i) : a.get? i = none := by
  have outside' : a.places.length ≤ i := outside
  simp [get?, outside']

theorem replaced_self (inside : i < a.width) : a.replaced i (a.get? i) = a := by
  refine ext_of_get? (width_replaced _) fun j => ?_
  rw [get?_replaced inside]
  split
  · rename_i same
    rw [same]
  · rfl

/-! ### One setting -/

/-- A position outside changes nothing. Inside, what the contents are joined to replaces
what was held, and nothing does if they do not agree. -/
theorem set_cases (a : Assignment) (i : Nat) (fragment : Fragment) :
    (a.width ≤ i ∧ a.set i fragment = (a, some (.noChild i a.width))) ∨
    (i < a.width ∧ ∃ result, Joins (a.get? i) fragment result ∧
      a.set i fragment = (a.replaced i (some result), none)) ∨
    (i < a.width ∧ ∃ held cause, a.get? i = some held ∧ ¬ held.Agrees fragment ∧
      Reported i held fragment cause ∧ a.set i fragment = (a.replaced i none, some cause)) := by
  by_cases inside : i < a.width
  · have inside' : i < a.places.length := inside
    have place : a.places[i]? = some (a.get? i) := by simp [get?, inside']
    cases joins : join i (a.get? i) fragment with
    | ok result =>
      have step : a.set i fragment = (a.replaced i (some result), none) := by
        simp only [set, place, joins, replaced]
      exact .inr (.inl ⟨inside, result, join_eq_ok_iff.mp joins, step⟩)
    | error cause =>
      have step : a.set i fragment = (a.replaced i none, some cause) := by
        simp only [set, place, joins, replaced]
      obtain ⟨held, _, isHeld, same, disagree, reported⟩ :=
        conflictReported_some_iff.mpr joins
      cases same
      exact .inr (.inr ⟨inside, held, cause, isHeld, disagree, reported, step⟩)
  · have outside : a.places.length ≤ i := Nat.le_of_not_lt inside
    refine .inl ⟨outside, ?_⟩
    rw [set, List.getElem?_eq_none_iff.mpr outside]

/-- Setting a position leaves the others alone, also when it fails. -/
theorem get?_set_of_ne (differ : j ≠ i) : (a.set i fragment).1.get? j = a.get? j := by
  have others : ∀ place, i < a.width → (a.replaced i place).get? j = a.get? j := by
    intro place inside
    rw [get?_replaced inside, if_neg (Ne.symm differ)]
  rcases set_cases a i fragment with ⟨-, step⟩ | ⟨inside, _, -, step⟩ |
    ⟨inside, _, _, -, -, -, step⟩
  · rw [step]
  · rw [step]
    exact others _ inside
  · rw [step]
    exact others _ inside

/-- Setting fails outside the assignment, and where the contents do not agree. -/
theorem set_eq_fault_iff : (a.set i fragment).2 = some cause ↔
    (a.width ≤ i ∧ cause = .noChild i a.width) ∨
      ∃ held, a.get? i = some held ∧ ¬ held.Agrees fragment ∧ Reported i held fragment cause := by
  rcases set_cases a i fragment with ⟨outside, step⟩ | ⟨inside, result, joins, step⟩ |
    ⟨inside, held, other, isHeld, disagree, reported, step⟩
  · simp [step, outside, get?_outside outside, eq_comm]
  · have agrees : ∀ held, a.get? i = some held → held.Agrees fragment := by
      intro held isHeld
      rw [isHeld] at joins
      exact exists_joins_iff.mp ⟨result, joins⟩
    simp only [step, reduceCtorEq, Nat.not_le.mpr inside, false_and, false_or, false_iff]
    rintro ⟨held, isHeld, disagree, -⟩
    exact disagree (agrees held isHeld)
  · simp only [step, Option.some.injEq, Nat.not_le.mpr inside, false_and, false_or, isHeld]
    constructor
    · rintro rfl
      exact ⟨held, rfl, disagree, reported⟩
    · rintro ⟨_, rfl, -, reported'⟩
      exact reported.unique reported'

/-- After a failure the position is unset, and only a position outside is as it was. -/
theorem set_of_fault (failed : (a.set i fragment).2 = some cause) :
    (a.set i fragment).1.get? i = none ∧ ((a.set i fragment).1 = a ↔ a.width ≤ i) := by
  rcases set_cases a i fragment with ⟨outside, step⟩ | ⟨-, _, -, step⟩ |
    ⟨inside, held, _, isHeld, -, -, step⟩
  · rw [step]
    exact ⟨get?_outside outside, iff_of_true rfl outside⟩
  · rw [step] at failed
    cases failed
  · have unset : (a.replaced i none).get? i = none := by
      rw [get?_replaced inside, if_pos rfl]
    rw [step]
    refine ⟨unset, iff_of_false (fun same => ?_) (Nat.not_le.mpr inside)⟩
    have same : a.replaced i none = a := same
    rw [same, isHeld] at unset
    cases unset

/-- What a position holds after it was set is what the contents are merged to. -/
theorem merges_of_set (set : (a.set i fragment).2 = none) :
    Merges (a.get? i) (some fragment) ((a.set i fragment).1.get? i) := by
  rcases set_cases a i fragment with ⟨-, step⟩ | ⟨inside, result, joins, step⟩ |
    ⟨-, _, _, -, -, -, step⟩
  · rw [step] at set
    cases set
  · rw [step, get?_replaced inside, if_pos rfl]
    exact .joined joins
  · rw [step] at set
    cases set

/-! ### Runs of settings -/

/-- The assignment after some settings, in order; one that fails does not stop the others. -/
def setAll (a : Assignment) : List (Nat × Fragment) → Assignment
  | [] => a
  | (i, fragment) :: rest => (a.set i fragment).1.setAll rest

theorem width_of_isHeld {held : Fragment} (isHeld : a.get? i = some held) : i < a.width := by
  by_contra outside
  rw [get?_outside (Nat.le_of_not_lt outside)] at isHeld
  cases isHeld

/-- A value may be set again. -/
theorem set_same {v : Value} (isHeld : a.get? i = some (.value v)) :
    a.set i (.value v) = (a, none) := by
  have inside := width_of_isHeld isHeld
  rcases set_cases a i (.value v) with ⟨outside, -⟩ | ⟨-, result, joins, step⟩ |
    ⟨-, held, cause, isHeld', disagree, -, -⟩
  · exact absurd outside (Nat.not_le.mpr inside)
  · rw [isHeld] at joins
    cases joins
    rw [step, ← isHeld, replaced_self inside]
  · rw [isHeld] at isHeld'
    cases isHeld'
    exact absurd (.same v) disagree

/-- Anything else than the value is a conflict, and the value is lost. -/
theorem set_other {v : Value} (isHeld : a.get? i = some (.value v)) (differ : fragment ≠ .value v) :
    (a.set i fragment).2 = some (.mergeConflict i (.value v) fragment) := by
  refine set_eq_fault_iff.mpr (.inr ⟨.value v, isHeld, fun agrees => ?_, .conflict ?_⟩)
  · cases agrees
    exact differ rfl
  · rintro _ _ ⟨isFields, -⟩
    cases isFields

/-- A value lasts as long as its position is given nothing else, and the first time that it
is, the value is lost in a conflict. -/
theorem value_lasts_or_conflicts {v : Value} : ∀ (calls : List (Nat × Fragment)) (a : Assignment),
    a.get? i = some (.value v) →
      ((∀ given, (i, given) ∈ calls → given = .value v) ∧
        (a.setAll calls).get? i = some (.value v)) ∨
      ∃ before incoming after, calls = before ++ (i, incoming) :: after ∧
        (∀ given, (i, given) ∈ before → given = .value v) ∧ incoming ≠ .value v ∧
        (a.setAll before).get? i = some (.value v) ∧
        ((a.setAll before).set i incoming).2 = some (.mergeConflict i (.value v) incoming) ∧
        ((a.setAll before).set i incoming).1.get? i = none
  | [], a, isHeld => .inl ⟨by simp, isHeld⟩
  | (position, incoming) :: rest, a, isHeld => by
    by_cases conflict : position = i ∧ incoming ≠ .value v
    · obtain ⟨rfl, differ⟩ := conflict
      have failed := set_other isHeld differ
      exact .inr ⟨[], incoming, rest, rfl, by simp, differ, isHeld, failed, (set_of_fault failed).1⟩
    · have harmless : ∀ given, (i, given) = (position, incoming) → given = .value v := by
        rintro given same
        cases same
        by_contra differ
        exact conflict ⟨rfl, differ⟩
      have lasts : (a.set position incoming).1.get? i = some (.value v) := by
        by_cases same : i = position
        · subst same
          rw [harmless incoming rfl, set_same isHeld]
          exact isHeld
        · rw [get?_set_of_ne same]
          exact isHeld
      have ofRest : ∀ {calls : List (Nat × Fragment)},
          (∀ given, (i, given) ∈ calls → given = .value v) →
            ∀ given, (i, given) ∈ (position, incoming) :: calls → given = .value v := by
        intro calls each given mem
        rcases List.mem_cons.mp mem with here | later
        · exact harmless given here
        · exact each given later
      rcases value_lasts_or_conflicts rest _ lasts with
        ⟨each, held⟩ | ⟨before, other, after, rfl, each, differ, held, failed, lost⟩
      · exact .inl ⟨ofRest each, held⟩
      · exact .inr ⟨(position, incoming) :: before, other, after, rfl, ofRest each, differ, held,
          failed, lost⟩

/-- **A failed setting empties its position.** Setting keeps the width and the other positions.
It fails outside the assignment, which alone leaves everything as it was, and where contents do
not agree, and then the position holds nothing afterwards. Over a run of settings, a value lasts
while its position is given nothing else; the first setting that gives it something else fails
and loses it. -/
theorem failed_set_empties_position (a : Assignment) (i : Nat) (fragment : Fragment) :
    (a.set i fragment).1.width = a.width ∧
    (∀ j ≠ i, (a.set i fragment).1.get? j = a.get? j) ∧
    ((a.set i fragment).2 = none → Merges (a.get? i) (some fragment) ((a.set i fragment).1.get? i)) ∧
    (∀ cause, (a.set i fragment).2 = some cause ↔ (a.width ≤ i ∧ cause = .noChild i a.width) ∨
      ∃ held, a.get? i = some held ∧ ¬ held.Agrees fragment ∧ Reported i held fragment cause) ∧
    (∀ cause, (a.set i fragment).2 = some cause →
      (a.set i fragment).1.get? i = none ∧ ((a.set i fragment).1 = a ↔ a.width ≤ i)) ∧
    ∀ (v : Value) (calls : List (Nat × Fragment)), a.get? i = some (.value v) →
      ((∀ given, (i, given) ∈ calls → given = .value v) ∧
        (a.setAll calls).get? i = some (.value v)) ∨
      ∃ before incoming after, calls = before ++ (i, incoming) :: after ∧
        (∀ given, (i, given) ∈ before → given = .value v) ∧ incoming ≠ .value v ∧
        (a.setAll before).get? i = some (.value v) ∧
        ((a.setAll before).set i incoming).2 = some (.mergeConflict i (.value v) incoming) ∧
        ((a.setAll before).set i incoming).1.get? i = none := by
  refine ⟨width_set a i fragment, fun j differ => get?_set_of_ne differ, merges_of_set,
    fun _ => set_eq_fault_iff, fun _ => set_of_fault, ?_⟩
  intro v calls isHeld
  exact value_lasts_or_conflicts calls a isHeld

/-- The first position is set to another value and is unset then; setting a third position
fails and changes nothing; and the value of the second position lasts. -/
theorem failed_set_empties_first :
    let a : Assignment := ⟨[some (.value (.str "x")), some (.value .null)]⟩
    (a.set 0 (.value (.str "y"))).2 =
        some (.mergeConflict 0 (.value (.str "x")) (.value (.str "y"))) ∧
      (a.set 0 (.value (.str "y"))).1.get? 0 = none ∧ (a.set 0 (.value (.str "y"))).1.get? 1 = a.get? 1 ∧
      (a.set 2 (.value .null)).2 = some (.noChild 2 2) ∧ (a.set 2 (.value .null)).1 = a ∧
      Merges (a.get? 1) (some (.value .null)) ((a.set 1 (.value .null)).1.get? 1) ∧
      a.get? 1 = some (.value .null) ∧
      (a.setAll [(0, .value (.str "y")), (1, .value .null), (2, .value .null)]).get? 1 =
        some (.value .null) := by
  intro a
  obtain ⟨-, frame, -, -, emptied, -⟩ := failed_set_empties_position a 0 (.value (.str "y"))
  obtain ⟨-, -, merges, -, -, lasts⟩ := failed_set_empties_position a 1 (.value .null)
  obtain ⟨-, -, -, fails, unchanged, -⟩ := failed_set_empties_position a 2 (.value .null)
  have conflict : (a.set 0 (.value (.str "y"))).2 =
      some (.mergeConflict 0 (.value (.str "x")) (.value (.str "y"))) := by rfl
  have outside : (a.set 2 (.value .null)).2 = some (.noChild 2 2) :=
    (fails _).mpr (.inl ⟨by decide, rfl⟩)
  have isHeld : a.get? 1 = some (.value .null) := by rfl
  refine ⟨conflict, (emptied _ conflict).1, frame 1 (by decide), outside,
    (unchanged _ outside).2.mpr (by decide), merges rfl, isHeld, ?_⟩
  rcases lasts .null [(0, .value (.str "y")), (1, .value .null), (2, .value .null)] isHeld with
    ⟨-, held⟩ | ⟨before, incoming, after, same, -, differ, -⟩
  · exact held
  · have mem : (1, incoming) ∈
        [(0, Fragment.value (.str "y")), (1, .value .null), (2, .value .null)] := by
      rw [same]
      simp
    simp at mem
    exact absurd mem differ

/-- So a failed setting does not leave the assignment as it was, and a position that holds a value
may come to hold another: it is given the other one twice, and only the first time fails. -/
theorem failed_set_not_undone :
    (¬ ∀ (a : Assignment) (i : Nat) (fragment : Fragment) (cause : TemplateFault),
      (a.set i fragment).2 = some cause → (a.set i fragment).1 = a) ∧
    ¬ ∀ (a : Assignment) (i : Nat) (v w : Value) (calls : List (Nat × Fragment)),
      a.get? i = some (.value v) → (a.setAll calls).get? i = some (.value w) → w = v := by
  let a : Assignment := ⟨[some (.value (.str "x"))]⟩
  let other : Fragment := .value (.str "y")
  have fails : (a.set 0 other).2 = some (.mergeConflict 0 (.value (.str "x")) other) := by rfl
  constructor
  · intro undone
    have same := undone a 0 other _ fails
    have isHeld : (a.set 0 other).1.get? 0 = some (.value (.str "x")) := by rw [same]; rfl
    rw [(set_of_fault fails).1] at isHeld
    cases isHeld
  · intro lasts
    have changed : (a.setAll [(0, other), (0, other)]).get? 0 = some other := by rfl
    have same := lasts a 0 (.str "x") (.str "y") _ rfl changed
    simp at same

end Assignment
end ReversibleGrammar
