/-
# Searches

An exhaustive search delivers what it finds one item after the other, counts
the rules it tries, and ends when nothing is left or at the first fault. What
follows an item or a trial is computed only when it is asked for. The view of a
search is the list of its items, its fault if it ends in one, and the number of
its trials, and each operation is described by what it does to the view.

Key definitions: `Search`, `Search.append`, `Search.bind`, `Search.each`,
`Search.items`, `Search.fault?`, `Search.trials`.
Key theorems: `Search.items_append`, `Search.fault?_append`, `Search.items_bind`.
-/

namespace ReversibleGrammar

/-- A search for items of type `α` that a fault of type `ε` may end. -/
inductive Search (ε α : Type) where
  /-- Nothing is left. -/
  | done
  /-- The search ends in a fault. -/
  | fail (fault : ε)
  /-- An item, and what follows it. -/
  | found (item : α) (rest : Unit → Search ε α)
  /-- A rule is tried. -/
  | trial (rest : Unit → Search ε α)

namespace Search

variable {ε α β : Type}

/-- The search that finds one item. -/
def single (item : α) : Search ε α :=
  found item fun _ => done

/-- One search after the other; a fault of the first is the end of both. -/
def append : Search ε α → (Unit → Search ε α) → Search ε α
  | done, next => next ()
  | fail fault, _ => fail fault
  | found item rest, next => found item fun _ => (rest ()).append next
  | trial rest, next => trial fun _ => (rest ()).append next

/-- For each item found, in order, the search that it leads to. -/
def bind : Search ε α → (α → Search ε β) → Search ε β
  | done, _ => done
  | fail fault, _ => fail fault
  | found item rest, f => (f item).append fun _ => (rest ()).bind f
  | trial rest, f => trial fun _ => (rest ()).bind f

/-- Applies a function to every item. -/
def map (f : α → β) : Search ε α → Search ε β
  | done => done
  | fail fault => fail fault
  | found item rest => found (f item) fun _ => (rest ()).map f
  | trial rest => trial fun _ => (rest ()).map f

/-- The searches of the members of a list, one after the other. -/
def each (f : α → Search ε β) : List α → Search ε β
  | [] => done
  | a :: rest => (f a).append fun _ => each f rest

/-! ### The view -/

/-- All items, in order. -/
def items : Search ε α → List α
  | done => []
  | fail _ => []
  | found item rest => item :: (rest ()).items
  | trial rest => (rest ()).items

/-- The fault that the search ends in. -/
def fault? : Search ε α → Option ε
  | done => none
  | fail fault => some fault
  | found _ rest => (rest ()).fault?
  | trial rest => (rest ()).fault?

/-- How many rules the search tries. -/
def trials : Search ε α → Nat
  | done => 0
  | fail _ => 0
  | found _ rest => (rest ()).trials
  | trial rest => (rest ()).trials + 1

theorem items_append (x : Search ε α) (next : Unit → Search ε α) :
    (x.append next).items = x.items ++ if x.fault?.isNone then (next ()).items else [] := by
  induction x with
  | done => simp [append, items, fault?]
  | fail => simp [append, items, fault?]
  | found item rest ih => simp [append, items, fault?, ih ()]
  | trial rest ih => simp [append, items, fault?, ih ()]

theorem fault?_append (x : Search ε α) (next : Unit → Search ε α) :
    (x.append next).fault? = x.fault?.or (next ()).fault? := by
  induction x with
  | done => simp [append, fault?]
  | fail => simp [append, fault?]
  | found item rest ih => simp [append, fault?, ih ()]
  | trial rest ih => simp [append, fault?, ih ()]

/-- Without a fault, the items of a bind are those of the searches of the items. -/
theorem items_bind (f : α → Search ε β) : ∀ x : Search ε α, (x.bind f).fault? = none →
    (x.bind f).items = x.items.flatMap fun a => (f a).items
  | done, _ => rfl
  | fail _, h => by simp [bind, fault?] at h
  | found item rest, h => by
    simp only [bind, fault?_append, Option.or_eq_none_iff] at h
    simp [bind, items_append, h.1, items, items_bind f (rest ()) h.2]
  | trial rest, h => by
    simp only [bind, fault?] at h
    simp [bind, items, items_bind f (rest ()) h]

end Search

end ReversibleGrammar
