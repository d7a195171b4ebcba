/-
# Drawing from a feed

To draw from a feed is to ask it for one item after the other, faults among them, and for
nothing beyond the last. A draw brings the first items, makes the trials on the way to
them, and leaves a feed of the others; a draw of more items than there are makes all
trials and leaves nothing. How much was drawn shows in a feed that counts as a trial
each time that it is asked.

A reading of a feed stops at the first fault. It brings what a draw brings from the feed
that ends there.

Key definitions: `Feed.Drawn`, `Feed.draw`, `Feed.counting`, `Feed.upToFault`.
Key theorems: `Feed.items_draw`, `Feed.draw_of_length_lt`, `Feed.trials_draw_counting`,
`Feed.outcomes_harvest_eq`, `Feed.trials_harvest_eq`.
-/
import ReversibleGrammar.Proofs.Feed.Reading
import ReversibleGrammar.Proofs.Search.Outcome

namespace ReversibleGrammar
namespace Feed

variable {ε α : Type}

/-- What drawing from a feed came to. -/
structure Drawn (α : Type) where
  items : List α
  /-- How many rules were tried on the way. -/
  trials : Nat
  /-- What the feed has left. -/
  rest : Feed α

/-- Asks for a number of items, or up to the end if there are fewer. -/
def draw : Feed α → Nat → Drawn α
  | feed, 0 => ⟨[], 0, feed⟩
  | ended, _ + 1 => ⟨[], 0, ended⟩
  | item a rest, n + 1 =>
    let later := (rest ()).draw n
    { later with items := a :: later.items }
  | trial rest, n + 1 =>
    let later := (rest ()).draw (n + 1)
    { later with trials := later.trials + 1 }

theorem draw_zero (feed : Feed α) : feed.draw 0 = ⟨[], 0, feed⟩ := by
  cases feed <;> rfl

theorem items_draw (feed : Feed α) (n : Nat) : (feed.draw n).items = feed.toList.take n := by
  induction feed generalizing n with
  | ended => cases n <;> rfl
  | item a rest ih =>
    cases n with
    | zero => rfl
    | succ n => exact congrArg (a :: ·) (ih () n)
  | trial rest ih =>
    cases n with
    | zero => rfl
    | succ n => exact ih () (n + 1)

/-- To ask for more than there is drains the feed. -/
theorem draw_of_length_lt {feed : Feed α} {n : Nat} (lt : feed.toList.length < n) :
    feed.draw n = ⟨feed.toList, feed.trials, ended⟩ := by
  induction feed generalizing n with
  | ended =>
    cases n with
    | zero => exact absurd lt (Nat.not_lt_zero _)
    | succ n => rfl
  | item a rest ih =>
    cases n with
    | zero => exact absurd lt (Nat.not_lt_zero _)
    | succ n =>
      rw [draw, ih () (Nat.lt_of_succ_lt_succ lt)]
      rfl
  | trial rest ih =>
    cases n with
    | zero => exact absurd lt (Nat.not_lt_zero _)
    | succ n =>
      rw [draw, ih () lt]
      rfl

/-! ### Counting how often a feed is asked -/

/-- Hands out the items of a list, and counts as a trial each time that it is asked for
one, the time that it has none left included. -/
def counting : List α → Feed α
  | [] => trial fun _ => ended
  | a :: rest => trial fun _ => item a fun _ => counting rest

theorem toList_counting : ∀ xs : List α, (counting xs).toList = xs
  | [] => rfl
  | a :: rest => congrArg (a :: ·) (toList_counting rest)

/-- A draw asks as often as it brings an item. -/
theorem trials_draw_counting : ∀ {xs : List α} {n : Nat}, n ≤ xs.length →
    ((counting xs).draw n).trials = n
  | _, 0, _ => by rw [draw_zero]
  | _ :: rest, n + 1, le => by
    have behind : ((counting rest).draw n).trials = n :=
      trials_draw_counting (Nat.le_of_succ_le_succ le)
    exact congrArg (· + 1) behind

/-! ### Readings as draws -/

/-- The feed up to its first fault. -/
def upToFault : Feed (Except ε α) → Feed (Except ε α)
  | ended => ended
  | item (.ok a) rest => item (.ok a) fun _ => (rest ()).upToFault
  | item (.error fault) _ => item (.error fault) fun _ => ended
  | trial rest => trial fun _ => (rest ()).upToFault

theorem toList_upToFault (feed : Feed (Except ε α)) : feed.upToFault.toList = feed.outcomes := by
  induction feed with
  | ended => rfl
  | item head rest ih =>
    cases head with
    | ok a => exact congrArg (.ok a :: ·) (ih ())
    | error fault => rfl
  | trial rest ih => exact ih ()

theorem trials_draw_upToFault (feed : Feed (Except ε α)) (n : Nat) :
    (feed.upToFault.draw n).trials = feed.trialsTo n := by
  induction feed generalizing n with
  | ended => cases n <;> rfl
  | item head rest ih =>
    cases n with
    | zero => rw [draw_zero, trialsTo_zero]
    | succ n =>
      cases head with
      | ok a => exact ih () n
      | error fault => cases n <;> rfl
  | trial rest ih =>
    cases n with
    | zero => rfl
    | succ n => exact congrArg (· + 1) (ih () (n + 1))

theorem outcomes_harvest_eq (feed : Feed (Except ε α)) (n : Nat) :
    (feed.harvest n).outcomes = (feed.upToFault.draw n).items := by
  rw [(feed.harvest_reads n).outcomes, items_draw, toList_upToFault]

theorem trials_harvest_eq (feed : Feed (Except ε α)) (n : Nat) :
    (feed.harvest n).trials = (feed.upToFault.draw n).trials := by
  rw [(feed.harvest_reads n).trials, trials_draw_upToFault]

end Feed
end ReversibleGrammar
