/-
# Reading a feed in steps

What a feed hands out, up to its first fault, and how many trials it makes on the way to
each item are known from the feed alone. A reading brings the first of what the feed hands
out, after the trials on the way to it, and leaves a feed that hands out the others,
after the trials that are left. So readings of one feed may be made at any time, and
together bring what one longer reading brings.

Key definitions: `Feed.outcomes`, `Feed.trialsTo`, `Feed.Harvest.Reads`.
Key theorems: `Feed.harvest_reads`, `Search.outcomes_uniqueIf`.
-/
import ReversibleGrammar.Feed

namespace ReversibleGrammar

namespace Feed

variable {ε α : Type}

/-- What a feed hands out until it ends, or up to its first fault. -/
def outcomes : Feed (Except ε α) → List (Except ε α)
  | ended => []
  | item (.ok a) rest => .ok a :: (rest ()).outcomes
  | item (.error fault) _ => [.error fault]
  | trial rest => (rest ()).outcomes

/-- The trials that a feed makes to hand out a number of items, or all that it has
before its end or its first fault if they are fewer. -/
def trialsTo : Feed (Except ε α) → Nat → Nat
  | _, 0 => 0
  | ended, _ + 1 => 0
  | item (.ok _) rest, n + 1 => (rest ()).trialsTo n
  | item (.error _) _, _ + 1 => 0
  | trial rest, n + 1 => (rest ()).trialsTo (n + 1) + 1

theorem trialsTo_zero (feed : Feed (Except ε α)) : feed.trialsTo 0 = 0 := by
  cases feed <;> rfl

theorem trialsTo_ended (n : Nat) : (ended : Feed (Except ε α)).trialsTo n = 0 := by
  cases n <;> rfl

/-! ### Harvests -/

theorem skipTrials_eq (made : Nat) (feed : Feed α) :
    feed.skipTrials made = (made + (feed.skipTrials 0).1, (feed.skipTrials 0).2) := by
  induction feed generalizing made with
  | ended => rfl
  | item => rfl
  | trial rest ih => rw [skipTrials, skipTrials, ih, ih () 1, Nat.add_assoc]

theorem harvest_zero (feed : Feed (Except ε α)) : feed.harvest 0 = ⟨[], none, false, 0, feed⟩ := rfl

theorem harvest_ended (n : Nat) :
    (ended : Feed (Except ε α)).harvest (n + 1) = ⟨[], none, true, 0, ended⟩ := rfl

theorem harvest_error (n : Nat) (fault : ε) (rest : Unit → Feed (Except ε α)) :
    (item (.error fault) rest).harvest (n + 1) = ⟨[], some fault, true, 0, ended⟩ := rfl

theorem harvest_ok (n : Nat) (a : α) (rest : Unit → Feed (Except ε α)) :
    (item (.ok a) rest).harvest (n + 1) =
      { (rest ()).harvest n with items := a :: ((rest ()).harvest n).items } := by
  simp [harvest, skipTrials]

/-- A trial is made before the rest is read. -/
theorem harvest_trial (n : Nat) (rest : Unit → Feed (Except ε α)) :
    (trial rest).harvest (n + 1) =
      { (rest ()).harvest (n + 1) with trials := ((rest ()).harvest (n + 1)).trials + 1 } := by
  rw [harvest, harvest, skipTrials, skipTrials_eq 1]
  rcases (rest ()).skipTrials 0 with ⟨made, _ | ⟨_ | _, _⟩ | _⟩ <;> simp <;> omega

/-- What a reading brought: the items, and the fault that it came to. -/
def Harvest.outcomes (harvest : Harvest ε α) : List (Except ε α) :=
  harvest.items.map .ok ++ harvest.fault.toList.map .error

/-- The harvest is what a reading of up to `n` items brings: the first of what the feed
hands out, after the trials on the way; and it leaves the others, after the trials that
the feed makes on the way from there. -/
structure Harvest.Reads (harvest : Harvest ε α) (n : Nat) (feed : Feed (Except ε α)) : Prop where
  outcomes : harvest.outcomes = feed.outcomes.take n
  trials : harvest.trials = feed.trialsTo n
  outcomes_rest : harvest.rest.outcomes = feed.outcomes.drop n
  trialsTo_add (m : Nat) : feed.trialsTo (n + m) = feed.trialsTo n + harvest.rest.trialsTo m

theorem harvest_zero_reads (feed : Feed (Except ε α)) : (feed.harvest 0).Reads 0 feed := by
  rw [harvest_zero]
  exact ⟨rfl, (trialsTo_zero feed).symm, rfl, fun m => by rw [trialsTo_zero, Nat.zero_add, Nat.zero_add]⟩

theorem harvest_reads (n : Nat) (feed : Feed (Except ε α)) : (feed.harvest n).Reads n feed := by
  induction feed generalizing n with
  | ended =>
    cases n with
    | zero => exact harvest_zero_reads _
    | succ n =>
      rw [harvest_ended]
      exact ⟨rfl, rfl, rfl, fun m => by rw [trialsTo_ended, trialsTo_ended, trialsTo_ended]⟩
  | item head rest ih =>
    cases n with
    | zero => exact harvest_zero_reads _
    | succ n =>
      cases head with
      | ok a =>
        obtain ⟨brought, trials, left, add⟩ := ih () n
        rw [harvest_ok]
        refine ⟨?_, trials, left, fun m => ?_⟩
        · show .ok a :: ((rest ()).harvest n).outcomes = .ok a :: (rest ()).outcomes.take n
          rw [brought]
        · rw [Nat.succ_add]
          exact add m
      | error fault =>
        rw [harvest_error]
        refine ⟨by simp [Harvest.outcomes, outcomes], rfl, List.drop_nil.symm, fun m => ?_⟩
        rw [Nat.succ_add, trialsTo_ended]
        rfl
  | trial rest ih =>
    cases n with
    | zero => exact harvest_zero_reads _
    | succ n =>
      obtain ⟨brought, trials, left, add⟩ := ih () (n + 1)
      rw [harvest_trial]
      refine ⟨brought, congrArg (· + 1) trials, left, fun m => ?_⟩
      have add := add m
      rw [Nat.add_right_comm] at add ⊢
      show (rest ()).trialsTo (n + m + 1) + 1 =
        (rest ()).trialsTo (n + 1) + 1 + ((rest ()).harvest (n + 1)).rest.trialsTo m
      omega

/-- Two readings make the trials of one that is as long as both. -/
theorem trials_harvest_add (feed : Feed (Except ε α)) (n m : Nat) :
    (feed.harvest (n + m)).trials = (feed.harvest n).trials + ((feed.harvest n).rest.harvest m).trials := by
  rw [(feed.harvest_reads (n + m)).trials, (feed.harvest_reads n).trials,
    ((feed.harvest n).rest.harvest_reads m).trials]
  exact (feed.harvest_reads n).trialsTo_add m

end Feed

/-! ### Searches read from outside -/

namespace Search

variable {ε α : Type}

/-- The fault of a search is the last that its feed hands out. -/
theorem outcomes_feed (x : Search ε α) : x.feed.outcomes = x.feed.toList := by
  induction x with
  | done => rfl
  | fail => rfl
  | found item rest ih => exact congrArg (.ok item :: ·) (ih ())
  | trial rest ih => exact ih ()

theorem outcomes_uniqueAfter [DecidableEq α] (x : Search ε α) (seen : List α) :
    (x.feed.uniqueAfter seen).outcomes = (x.feed.uniqueAfter seen).toList := by
  induction x generalizing seen with
  | done => rfl
  | fail => rfl
  | found item rest ih =>
    rw [feed, Feed.uniqueAfter]
    split
    · exact ih () seen
    · exact congrArg (.ok item :: ·) (ih () (item :: seen))
  | trial rest ih => exact ih () seen

/-- That is so without repetitions too. -/
theorem outcomes_uniqueIf [DecidableEq α] (on : Bool) (x : Search ε α) :
    (x.feed.uniqueIf on).outcomes = (x.feed.uniqueIf on).toList := by
  cases on
  · exact outcomes_feed x
  · exact outcomes_uniqueAfter x []

end Search

end ReversibleGrammar
