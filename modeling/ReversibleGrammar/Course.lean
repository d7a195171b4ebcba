/-
# Courses

A course is a search that is told what comes after it: what is done with each
item, and what follows when nothing is left. It gives the search from its start
to the very end. So a trial is handed on at once, however many searches are
nested, where a search inside binds is handed on by each of them in turn.
Every search can be taken as a course, and each operation on searches has its
counterpart on courses.

Key definitions: `Course`, `Course.each`, `Search.through`.
Key theorems: `Search.through_append`, `Search.through_bind`,
`Search.through_map`, `Search.through_each`, `Search.through_found`.
-/
import ReversibleGrammar.Search

namespace ReversibleGrammar

/-- A search for items of type `α` on the way to items of type `γ`: given what is
done with an item before what is left, and what follows when nothing is left, it
is the search to the end. -/
abbrev Course (ε γ α : Type) :=
  (α → (Unit → Search ε γ) → Search ε γ) → (Unit → Search ε γ) → Search ε γ

/-- The courses of the members of a list, one after the other. -/
def Course.each {ε γ α β : Type} (f : α → Course ε γ β) : List α → Course ε γ β
  | [], _, last => last ()
  | a :: rest, use, last => f a use fun _ => each f rest use last

namespace Search

variable {ε α β γ : Type}

/-- The search as a course. -/
def through : Search ε α → Course ε γ α
  | done, _, last => last ()
  | fail fault, _, _ => .fail fault
  | found item rest, use, last => use item fun _ => (rest ()).through use last
  | trial rest, use, last => .trial fun _ => (rest ()).through use last

theorem through_append (use : α → (Unit → Search ε γ) → Search ε γ) (last : Unit → Search ε γ)
    (x : Search ε α) (next : Unit → Search ε α) :
    (x.append next).through use last = x.through use fun _ => (next ()).through use last := by
  induction x with
  | done => rfl
  | fail => rfl
  | found item rest ih => simp [append, through, ih ()]
  | trial rest ih => simp [append, through, ih ()]

theorem through_bind (use : β → (Unit → Search ε γ) → Search ε γ) (last : Unit → Search ε γ)
    (x : Search ε α) (f : α → Search ε β) :
    (x.bind f).through use last = x.through (fun a left => (f a).through use left) last := by
  induction x with
  | done => rfl
  | fail => rfl
  | found item rest ih => simp [bind, through, through_append, ih ()]
  | trial rest ih => simp [bind, through, ih ()]

theorem through_map (use : β → (Unit → Search ε γ) → Search ε γ) (last : Unit → Search ε γ)
    (x : Search ε α) (f : α → β) :
    (x.map f).through use last = x.through (fun a left => use (f a) left) last := by
  induction x with
  | done => rfl
  | fail => rfl
  | found item rest ih => simp [map, through, ih ()]
  | trial rest ih => simp [map, through, ih ()]

theorem through_each (use : β → (Unit → Search ε γ) → Search ε γ) (last : Unit → Search ε γ)
    (f : α → Search ε β) : ∀ as : List α,
    (each f as).through use last = Course.each (fun a => (f a).through) as use last
  | [] => rfl
  | a :: rest => by
    simp only [each, through_append, Course.each, through_each use last f rest]

/-- A search is its course to its own items. -/
theorem through_found (x : Search ε α) : x.through found (fun _ => done) = x := by
  induction x with
  | done => rfl
  | fail => rfl
  | found item rest ih => simp [through, ih ()]
  | trial rest ih => simp [through, ih ()]

/-- A bind is the course of the first search through those that its items lead to. -/
theorem through_eq_bind (x : Search ε α) (f : α → Search ε β) :
    x.through (fun a left => (f a).through found left) (fun _ => done) = x.bind f := by
  rw [← through_bind, through_found]

end Search

end ReversibleGrammar
