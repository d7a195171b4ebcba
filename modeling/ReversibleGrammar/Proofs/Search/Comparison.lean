/-
# Comparing searches

The trace of a search is all that it does, in order: the items it finds, and the trials
on the way to them. Without a fault the traces of composed searches are composed of the
traces of their parts, by putting a list in the place of each member of another. Hence a
way of comparing lists that goes through this compares composed searches as soon as it
compares their parts. There are two such ways: a list is another one in some order, or
it is what is left of another one when members are taken out.

Key definitions: `Search.trace`, `Comparison`, `Search.Compares`.
Key theorems: `Search.trace_bind`, `Search.trace_each`, `Comparison.perm`,
`Comparison.sublist`, `Search.Compares.bind`, `Search.Compares.each`.
-/
import Mathlib.Data.List.Flatten
import Mathlib.Data.List.Perm.Basic
import ReversibleGrammar.Proofs.Search.Outcome

namespace ReversibleGrammar

namespace Search

variable {ε α β : Type}

/-! ### Traces -/

/-- What a search does until it ends or comes to its fault: an item each time that it finds
one, and nothing each time that it tries a rule. -/
def trace : Search ε α → List (Option α)
  | done => []
  | fail _ => []
  | found item rest => some item :: (rest ()).trace
  | trial rest => none :: (rest ()).trace

theorem items_eq_trace (x : Search ε α) : x.items = x.trace.filterMap id := by
  induction x with
  | done => rfl
  | fail => rfl
  | found item rest ih => exact congrArg (item :: ·) (ih ())
  | trial rest ih => exact ih ()

theorem trials_eq_trace (x : Search ε α) : x.trials = x.trace.countP Option.isNone := by
  induction x with
  | done => rfl
  | fail => rfl
  | found item rest ih => simp [trials, trace, ih ()]
  | trial rest ih => simp [trials, trace, ih ()]

theorem mem_items_iff {x : Search ε α} {a : α} : a ∈ x.items ↔ some a ∈ x.trace := by
  rw [items_eq_trace, List.mem_filterMap]
  simp

theorem trace_append {x : Search ε α} (noFault : x.fault? = none) (next : Unit → Search ε α) :
    (x.append next).trace = x.trace ++ (next ()).trace := by
  induction x with
  | done => rfl
  | fail => cases noFault
  | found item rest ih => exact congrArg (some item :: ·) (ih () noFault)
  | trial rest ih => exact congrArg (none :: ·) (ih () noFault)

theorem trace_map (f : α → β) (x : Search ε α) : (x.map f).trace = x.trace.map (Option.map f) := by
  induction x with
  | done => rfl
  | fail => rfl
  | found item rest ih => exact congrArg (some (f item) :: ·) (ih ())
  | trial rest ih => exact congrArg (none :: ·) (ih ())

/-- What a bind does in the place of one thing that the first search does. -/
def traceFrom (f : α → Search ε β) : Option α → List (Option β)
  | none => [none]
  | some a => (f a).trace

theorem trace_bind {f : α → Search ε β} {x : Search ε α} (noFault : (x.bind f).fault? = none) :
    (x.bind f).trace = x.trace.flatMap (traceFrom f) := by
  induction x with
  | done => rfl
  | fail => cases noFault
  | found item rest ih =>
    rw [bind, fault?_append, Option.or_eq_none_iff] at noFault
    rw [bind, trace_append noFault.1, ih () noFault.2, trace, List.flatMap_cons, traceFrom]
  | trial rest ih => exact congrArg (none :: ·) (ih () noFault)

theorem trace_each {f : α → Search ε β} : ∀ {as : List α}, (each f as).fault? = none →
    (each f as).trace = as.flatMap fun a => (f a).trace
  | [], _ => rfl
  | a :: rest, noFault => by
    rw [each, fault?_append, Option.or_eq_none_iff] at noFault
    rw [each, trace_append noFault.1, trace_each noFault.2, List.flatMap_cons]

end Search

/-! ### Comparing lists -/

/-- A way of comparing lists that goes through putting lists in the place of members. -/
structure Comparison (rel : {α : Type} → List α → List α → Prop) : Prop where
  refl {α : Type} (as : List α) : rel as as
  subset {α : Type} {as bs : List α} (h : rel as bs) : as ⊆ bs
  cons {α : Type} {as bs : List α} (a : α) (h : rel as bs) : rel (a :: as) (a :: bs)
  flatMap {α β : Type} {as bs : List α} {f g : α → List β} (h : rel as bs)
    (each : ∀ a ∈ as, rel (f a) (g a)) : rel (as.flatMap f) (bs.flatMap g)

namespace Comparison

/-- The same members in some order. -/
theorem perm : Comparison List.Perm where
  refl as := .refl as
  subset h := h.subset
  cons a h := h.cons a
  flatMap h each := h.flatMap each

/-- Some of the members in the same order. -/
theorem sublist : Comparison List.Sublist where
  refl as := .refl as
  subset h := h.subset
  cons a h := h.cons_cons a
  flatMap h each := (List.Sublist.flatMap_right _ each).trans (h.flatMap _)

variable {rel : {α : Type} → List α → List α → Prop}

theorem map (c : Comparison rel) {α β : Type} {as bs : List α} (h : rel as bs) (f : α → β) :
    rel (as.map f) (bs.map f) := by
  rw [List.map_eq_flatMap, List.map_eq_flatMap]
  exact c.flatMap h fun a _ => c.refl _

end Comparison

/-! ### Comparing searches -/

namespace Search

variable {ε α β : Type} {rel : {α : Type} → List α → List α → Prop}

/-- If the second search has no fault, the first has none and their traces compare. -/
def Compares (rel : {α : Type} → List α → List α → Prop) (x y : Search ε α) : Prop :=
  y.fault? = none → x.fault? = none ∧ rel x.trace y.trace

namespace Compares

theorem refl (c : Comparison rel) (x : Search ε α) : Compares rel x x :=
  fun noFault => ⟨noFault, c.refl _⟩

theorem trial (c : Comparison rel) {rest rest' : Unit → Search ε α}
    (h : Compares rel (rest ()) (rest' ())) :
    Compares rel (Search.trial rest) (Search.trial rest') := by
  intro noFault
  obtain ⟨noFault', traces⟩ := h noFault
  exact ⟨noFault', c.cons none traces⟩

theorem map (c : Comparison rel) {x y : Search ε α} (h : Compares rel x y) (f : α → β) :
    Compares rel (x.map f) (y.map f) := by
  intro noFault
  rw [fault?_map] at noFault
  obtain ⟨noFault', traces⟩ := h noFault
  rw [fault?_map, trace_map, trace_map]
  exact ⟨noFault', c.map traces _⟩

/-- Only what the first search finds has to lead to searches that compare. -/
theorem bind (c : Comparison rel) {x y : Search ε α} {f g : α → Search ε β} (h : Compares rel x y)
    (each : ∀ a ∈ x.items, Compares rel (f a) (g a)) : Compares rel (x.bind f) (y.bind g) := by
  intro noFault
  obtain ⟨first, later⟩ := fault?_bind_eq_none.mp noFault
  obtain ⟨first', traces⟩ := h first
  have found : ∀ a ∈ x.items, a ∈ y.items := fun a mem =>
    mem_items_iff.mpr (c.subset traces (mem_items_iff.mp mem))
  have inner : ∀ a ∈ x.items, (f a).fault? = none ∧ rel (f a).trace (g a).trace := fun a mem =>
    each a mem (later a (found a mem))
  have noFault' : (x.bind f).fault? = none :=
    fault?_bind_eq_none.mpr ⟨first', fun a mem => (inner a mem).1⟩
  refine ⟨noFault', ?_⟩
  rw [trace_bind noFault, trace_bind noFault']
  refine c.flatMap traces fun step mem => ?_
  cases step with
  | none => exact c.refl _
  | some a => exact (inner a (mem_items_iff.mpr mem)).2

/-- Only the members of the first list have to lead to searches that compare. -/
theorem each (c : Comparison rel) {as bs : List α} {f g : α → Search ε β} (h : rel as bs)
    (inner : ∀ a ∈ as, Compares rel (f a) (g a)) :
    Compares rel (Search.each f as) (Search.each g bs) := by
  intro noFault
  have later := fault?_each_eq_none.mp noFault
  have inner' : ∀ a ∈ as, (f a).fault? = none ∧ rel (f a).trace (g a).trace := fun a mem =>
    inner a mem (later a (c.subset h mem))
  have noFault' : (Search.each f as).fault? = none :=
    fault?_each_eq_none.mpr fun a mem => (inner' a mem).1
  refine ⟨noFault', ?_⟩
  rw [trace_each noFault, trace_each noFault']
  exact c.flatMap h fun a mem => (inner' a mem).2

end Compares

end Search

end ReversibleGrammar
