/-
# Feeds

A feed hands out items on demand and counts the trials made on the way to each.
It is how a search is read from outside: its items come as successes, and a
fault, if there is one, as the last item. A feed may be read in steps, each
taking up to a number of items and leaving the rest for later.

Key definitions: `Feed`, `Search.feed`, `Feed.unique`, `Feed.harvest`.
-/
import ReversibleGrammar.Search

namespace ReversibleGrammar

/-- Items that are handed out on demand. -/
inductive Feed (α : Type) where
  | ended
  /-- An item, and what follows it. -/
  | item (head : α) (rest : Unit → Feed α)
  /-- A rule is tried before anything else comes. -/
  | trial (rest : Unit → Feed α)

namespace Feed

variable {ε α : Type}

/-- The items of a list, without trials. -/
def ofList : List α → Feed α
  | [] => ended
  | a :: rest => item a fun _ => ofList rest

/-- All items, in order. -/
def toList : Feed α → List α
  | ended => []
  | item a rest => a :: (rest ()).toList
  | trial rest => (rest ()).toList

/-! ### Repetitions -/

/-- Drops the successes that were seen before; faults pass. -/
def uniqueAfter [DecidableEq α] (seen : List α) : Feed (Except ε α) → Feed (Except ε α)
  | ended => ended
  | item (.ok a) rest =>
    if a ∈ seen then (rest ()).uniqueAfter seen
    else item (.ok a) fun _ => (rest ()).uniqueAfter (a :: seen)
  | item (.error fault) rest => item (.error fault) fun _ => (rest ()).uniqueAfter seen
  | trial rest => trial fun _ => (rest ()).uniqueAfter seen

/-- Drops repeated successes and keeps the first of each; faults pass. -/
def unique [DecidableEq α] (feed : Feed (Except ε α)) : Feed (Except ε α) :=
  feed.uniqueAfter []

/-- Drops repeated successes if asked to. -/
def uniqueIf [DecidableEq α] (on : Bool) (feed : Feed (Except ε α)) : Feed (Except ε α) :=
  if on then feed.unique else feed

/-! ### Reading in steps -/

/-- The trials made before the next item or the end, counted from `made` on, and
the feed there. -/
def skipTrials (made : Nat) : Feed α → Nat × Feed α
  | trial rest => (rest ()).skipTrials (made + 1)
  | ended => (made, ended)
  | item head rest => (made, item head rest)

/-- What one reading of a feed brought. -/
structure Harvest (ε α : Type) where
  items : List α
  /-- The fault that the feed came to. -/
  fault : Option ε
  /-- Whether the feed has nothing more. -/
  ended : Bool
  /-- How many rules were tried. -/
  trials : Nat
  /-- What is left for later readings. -/
  rest : Feed (Except ε α)

/-- Reads up to a number of items, and nothing beyond the last of them. A fault
ends the reading and the feed. -/
def harvest : Nat → Feed (Except ε α) → Harvest ε α
  | 0, feed => ⟨[], none, false, 0, feed⟩
  | n + 1, feed =>
    match feed.skipTrials 0 with
    | (made, item (.ok a) rest) =>
      let later := harvest n (rest ())
      { later with items := a :: later.items, trials := made + later.trials }
    | (made, item (.error fault) _) => ⟨[], some fault, true, made, ended⟩
    | (made, _) => ⟨[], none, true, made, ended⟩

end Feed

/-- The search read from outside. -/
def Search.feed {ε α : Type} : Search ε α → Feed (Except ε α)
  | done => .ended
  | fail fault => .item (.error fault) fun _ => .ended
  | found a rest => .item (.ok a) fun _ => (rest ()).feed
  | trial rest => .trial fun _ => (rest ()).feed

end ReversibleGrammar
