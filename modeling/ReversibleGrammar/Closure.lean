/-
# Consequences of clauses

A clause says that its conclusion holds when all its premises do. The closure
of a list of clauses is the set of the names that follow from them; it is found
in sweeps, each of which concludes from the clauses whose premises are known
and leaves the others for the next one.

Key definitions: `Clause`, `Clause.Follows`, `Clause.closure`.
Key theorems: `Clause.mem_closure`.
-/
import ReversibleGrammar.NameSet
import Std.Data.TreeSet

namespace ReversibleGrammar

/-- A name that holds when all of some names hold. -/
structure Clause where
  premises : List String
  conclusion : String

namespace Clause

/-- A name follows from clauses when one of them concludes it from names that follow. -/
inductive Follows (clauses : List Clause) : String → Prop
  | conclude (c : Clause) (mem : c ∈ clauses) (premises : ∀ p ∈ c.premises, Follows clauses p) :
    Follows clauses c.conclusion

/-- Whether all premises of a clause are known. -/
def applies (known : Std.TreeSet String) (c : Clause) : Bool :=
  c.premises.all known.contains

theorem applies_iff {known : Std.TreeSet String} {c : Clause} :
    c.applies known = true ↔ ∀ p ∈ c.premises, p ∈ known := by
  simp [applies, Std.TreeSet.contains_iff_mem]

/-- The clauses that do not apply yet. -/
def waiting (known : Std.TreeSet String) (clauses : List Clause) : List Clause :=
  clauses.filter fun c => !c.applies known

/-- The conclusions of the clauses that apply. -/
def conclusions (known : Std.TreeSet String) (clauses : List Clause) : List String :=
  (clauses.filter (applies known)).map conclusion

theorem mem_waiting {known : Std.TreeSet String} {clauses : List Clause} {c : Clause} :
    c ∈ waiting known clauses ↔ c ∈ clauses ∧ c.applies known = false := by
  simp [waiting]

theorem mem_conclusions {known : Std.TreeSet String} {clauses : List Clause} {x : String} :
    x ∈ conclusions known clauses ↔ ∃ c ∈ clauses, c.applies known = true ∧ c.conclusion = x := by
  simp [conclusions, and_assoc]

theorem length_waiting_lt {known : Std.TreeSet String} {clauses : List Clause}
    (h : clauses.any (applies known) = true) :
    (waiting known clauses).length < clauses.length := by
  obtain ⟨c, mem, new⟩ := List.any_eq_true.mp h
  refine List.length_filter_lt_length_iff_exists.mpr ⟨c, mem, ?_⟩
  simp [new]

theorem mem_insertMany {known : Std.TreeSet String} {names : List String} {x : String} :
    x ∈ known.insertMany names ↔ x ∈ known ∨ x ∈ names := by
  rw [Std.TreeSet.mem_insertMany_list, List.contains_iff_mem]

/-- Adds conclusions to the known names until no clause applies. -/
def saturate (clauses : List Clause) (known : Std.TreeSet String) : Std.TreeSet String :=
  if _h : clauses.any (applies known) = true then
    saturate (waiting known clauses) (known.insertMany (conclusions known clauses))
  else known
termination_by clauses.length
decreasing_by exact length_waiting_lt _h

/-- The names that follow from clauses. -/
def closure (clauses : List Clause) : NameSet :=
  .ofList (saturate clauses ∅).toList

/-- Nothing but what follows is added. -/
theorem follows_of_mem_saturate {all clauses : List Clause} {known : Std.TreeSet String} {x : String}
    (among : ∀ c ∈ clauses, c ∈ all) (sound : ∀ y ∈ known, Follows all y)
    (h : x ∈ saturate clauses known) : Follows all x := by
  fun_induction saturate clauses known with
  | case1 clauses known some_applies ih =>
    refine ih (fun c mem => among c (mem_waiting.mp mem).1) (fun y mem => ?_) h
    rcases mem_insertMany.mp mem with mem | mem
    · exact sound y mem
    · obtain ⟨c, member, new, rfl⟩ := mem_conclusions.mp mem
      exact .conclude c (among c member) fun p hp => sound p (applies_iff.mp new p hp)
  | case2 => exact sound x h

/-- A clause that no longer waits has its conclusion among the known names, so
all that follows is added. -/
theorem mem_saturate_of_follows {all clauses : List Clause} {known : Std.TreeSet String} {x : String}
    (done : ∀ c ∈ all, c ∈ clauses ∨ c.conclusion ∈ known) (h : Follows all x) :
    x ∈ saturate clauses known := by
  fun_induction saturate clauses known with
  | case1 clauses known some_applies ih =>
    refine ih fun c mem => ?_
    rcases done c mem with waits | hold
    · cases new : c.applies known with
      | true => exact .inr (mem_insertMany.mpr (.inr (mem_conclusions.mpr ⟨c, waits, new, rfl⟩)))
      | false => exact .inl (mem_waiting.mpr ⟨waits, new⟩)
    · exact .inr (mem_insertMany.mpr (.inl hold))
  | case2 clauses known none_applies =>
    induction h with
    | conclude c mem _ ih =>
      rcases done c mem with waits | hold
      · exact absurd (List.any_eq_true.mpr ⟨c, waits, applies_iff.mpr ih⟩) none_applies
      · exact hold

/-- The closure holds exactly the names that follow. -/
theorem mem_closure {clauses : List Clause} {x : String} :
    x ∈ closure clauses ↔ Follows clauses x := by
  rw [closure, NameSet.mem_ofList, Std.TreeSet.mem_toList]
  exact ⟨follows_of_mem_saturate (fun _ h => h) (fun _ h => absurd h Std.TreeSet.not_mem_emptyc),
    mem_saturate_of_follows fun _ h => .inl h⟩

end Clause

end ReversibleGrammar
