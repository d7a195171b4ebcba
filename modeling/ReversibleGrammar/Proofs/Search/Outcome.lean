/-
# What a search comes to

Read to its end, a search hands out its items and then ends or comes to its
fault; a feed reads it from outside. The fault of a composed search is that of
the first part to have one, so a composed search without a fault has no part
with one, and its items are those of its parts. With a fault, its items still
are items of its parts, though not all of them.

Key definitions: `Feed.successes`, `Feed.fault?`, `Feed.trials`.
Key theorems: `Search.successes_feed`, `Search.fault?_feed`, `Search.trials_feed`,
`Search.toList_feed`, `Search.error_mem_feed_iff`,
`Search.fault?_bind_eq_none`, `Search.fault?_of_bind`, `Search.fault?_each_eq_none`,
`Search.fault?_of_each`, `Search.items_each`.
-/
import ReversibleGrammar.Feed

namespace ReversibleGrammar

namespace Feed

variable {ε α : Type}

/-- The items that a feed hands out before it ends or comes to a fault. -/
def successes : Feed (Except ε α) → List α
  | ended => []
  | item (.ok a) rest => a :: (rest ()).successes
  | item (.error _) _ => []
  | trial rest => (rest ()).successes

/-- The fault that a feed comes to. -/
def fault? : Feed (Except ε α) → Option ε
  | ended => none
  | item (.ok _) rest => (rest ()).fault?
  | item (.error fault) _ => some fault
  | trial rest => (rest ()).fault?

/-- How many rules are tried when a feed is read to its end. -/
def trials : Feed α → Nat
  | ended => 0
  | item _ rest => (rest ()).trials
  | trial rest => (rest ()).trials + 1

end Feed

namespace Search

variable {ε α β : Type}

/-! ### From outside -/

theorem successes_feed (x : Search ε α) : x.feed.successes = x.items := by
  induction x with
  | done => rfl
  | fail => rfl
  | found item rest ih => simp [feed, Feed.successes, items, ih ()]
  | trial rest ih => simp [feed, Feed.successes, items, ih ()]

theorem fault?_feed (x : Search ε α) : x.feed.fault? = x.fault? := by
  induction x with
  | done => rfl
  | fail => rfl
  | found item rest ih => simp [feed, Feed.fault?, fault?, ih ()]
  | trial rest ih => simp [feed, Feed.fault?, fault?, ih ()]

theorem trials_feed (x : Search ε α) : x.feed.trials = x.trials := by
  induction x with
  | done => rfl
  | fail => rfl
  | found item rest ih => exact ih ()
  | trial rest ih => simp [feed, Feed.trials, trials, ih ()]

/-- A feed hands out the items of the search and then, if it has one, its fault. -/
theorem toList_feed (x : Search ε α) :
    x.feed.toList = x.items.map .ok ++ x.fault?.toList.map .error := by
  induction x with
  | done => rfl
  | fail => rfl
  | found item rest ih => exact congrArg (.ok item :: ·) (ih ())
  | trial rest ih => exact ih ()

/-- The only error that a feed hands out is the fault of the search. -/
theorem error_mem_feed_iff {x : Search ε α} {fault : ε} :
    .error fault ∈ x.feed.toList ↔ x.fault? = some fault := by
  simp [toList_feed]

/-! ### Maps -/

theorem items_map (f : α → β) (x : Search ε α) : (x.map f).items = x.items.map f := by
  induction x with
  | done => rfl
  | fail => rfl
  | found item rest ih => simp [map, items, ih ()]
  | trial rest ih => simp [map, items, ih ()]

theorem fault?_map (f : α → β) (x : Search ε α) : (x.map f).fault? = x.fault? := by
  induction x with
  | done => rfl
  | fail => rfl
  | found item rest ih => simp [map, fault?, ih ()]
  | trial rest ih => simp [map, fault?, ih ()]

/-! ### Binds -/

/-- A bind has no fault exactly when no search that it runs has one. -/
theorem fault?_bind_eq_none {x : Search ε α} {f : α → Search ε β} :
    (x.bind f).fault? = none ↔ x.fault? = none ∧ ∀ a ∈ x.items, (f a).fault? = none := by
  induction x with
  | done => simp [bind, fault?, items]
  | fail => simp [bind, fault?]
  | found item rest ih =>
    simp only [bind, fault?_append, Option.or_eq_none_iff, ih (), fault?, items, List.forall_mem_cons]
    exact and_left_comm
  | trial rest ih => simp [bind, fault?, items, ih ()]

/-- The fault of a bind is that of the first search, or of one that an item leads to. -/
theorem fault?_of_bind {x : Search ε α} {f : α → Search ε β} {fault : ε}
    (h : (x.bind f).fault? = some fault) :
    x.fault? = some fault ∨ ∃ a ∈ x.items, (f a).fault? = some fault := by
  induction x with
  | done => cases h
  | fail => exact .inl h
  | found item rest ih =>
    rw [bind, fault?_append, Option.or_eq_some_iff] at h
    rcases h with here | ⟨-, later⟩
    · exact .inr ⟨item, List.mem_cons_self, here⟩
    · rcases ih () later with first | ⟨a, mem, second⟩
      · exact .inl first
      · exact .inr ⟨a, List.mem_cons_of_mem _ mem, second⟩
  | trial rest ih => exact ih () h

/-- A bind to searches that have no fault has that of the first search. -/
theorem fault?_bind_of_faultless {f : α → Search ε β} (none : ∀ a, (f a).fault? = none)
    (x : Search ε α) : (x.bind f).fault? = x.fault? := by
  induction x with
  | done => rfl
  | fail => rfl
  | found item rest ih => rw [bind, fault?_append, none, Option.none_or, ih (), fault?]
  | trial rest ih => exact ih ()

theorem mem_items_of_append {x : Search ε α} {next : Unit → Search ε α} {a : α}
    (h : a ∈ (x.append next).items) : a ∈ x.items ∨ a ∈ (next ()).items := by
  rw [items_append, List.mem_append] at h
  refine h.imp_right fun h => ?_
  split at h
  · exact h
  · cases h

/-- Every item of a bind comes from an item of the first search. -/
theorem exists_of_mem_items_bind {x : Search ε α} {f : α → Search ε β} {b : β}
    (h : b ∈ (x.bind f).items) : ∃ a ∈ x.items, b ∈ (f a).items := by
  induction x with
  | done => cases h
  | fail => cases h
  | found item rest ih =>
    rcases mem_items_of_append h with h | h
    · exact ⟨item, List.mem_cons_self, h⟩
    · obtain ⟨a, mem, h⟩ := ih () h
      exact ⟨a, List.mem_cons_of_mem _ mem, h⟩
  | trial rest ih => exact ih () h

/-! ### One search for each member -/

theorem fault?_each_eq_none {f : α → Search ε β} : ∀ {as : List α},
    (each f as).fault? = none ↔ ∀ a ∈ as, (f a).fault? = none
  | [] => by simp [each, fault?]
  | a :: rest => by
    rw [each, fault?_append, Option.or_eq_none_iff, fault?_each_eq_none, List.forall_mem_cons]

theorem fault?_of_each {f : α → Search ε β} {fault : ε} : ∀ {as : List α},
    (each f as).fault? = some fault → ∃ a ∈ as, (f a).fault? = some fault
  | [], h => by cases h
  | a :: rest, h => by
    rw [each, fault?_append, Option.or_eq_some_iff] at h
    rcases h with here | ⟨-, later⟩
    · exact ⟨a, List.mem_cons_self, here⟩
    · obtain ⟨a', mem, there⟩ := fault?_of_each later
      exact ⟨a', List.mem_cons_of_mem _ mem, there⟩

theorem items_each {f : α → Search ε β} : ∀ {as : List α}, (each f as).fault? = none →
    (each f as).items = as.flatMap fun a => (f a).items
  | [], _ => rfl
  | a :: rest, h => by
    rw [each, fault?_append, Option.or_eq_none_iff] at h
    simp [each, items_append, h.1, items_each h.2]

theorem fault?_each_append {f : α → Search ε β} {as bs : List α} :
    (each f (as ++ bs)).fault? = (each f as).fault?.or (each f bs).fault? := by
  induction as with
  | nil => rfl
  | cons a rest ih => simp only [List.cons_append, each, fault?_append, ih, Option.or_assoc]

/-- Where the first searches have no fault, the items of the others follow theirs. -/
theorem items_each_append {f : α → Search ε β} {as bs : List α} :
    (each f (as ++ bs)).items =
      (each f as).items ++ if (each f as).fault?.isNone then (each f bs).items else [] := by
  induction as with
  | nil => simp [each, items, fault?]
  | cons a rest ih =>
    simp only [List.cons_append, each, items_append, fault?_append, ih]
    cases (f a).fault? <;> simp

/-- Every item of the searches comes from a member. -/
theorem exists_of_mem_items_each {f : α → Search ε β} {b : β} : ∀ {as : List α},
    b ∈ (each f as).items → ∃ a ∈ as, b ∈ (f a).items
  | [], h => by cases h
  | a :: rest, h => by
    rcases mem_items_of_append h with h | h
    · exact ⟨a, List.mem_cons_self, h⟩
    · obtain ⟨a', mem, h⟩ := exists_of_mem_items_each h
      exact ⟨a', List.mem_cons_of_mem _ mem, h⟩

end Search

end ReversibleGrammar
