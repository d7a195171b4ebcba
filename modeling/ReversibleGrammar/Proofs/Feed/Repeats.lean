/-
# Feeds without repeats

A success is a repeat if an equal one came before it. A feed without repeats hands out what
the feed does, except for the repeats, and keeps the faults where they are. To take the
repeats away again takes nothing away.

It asks for no more than it needs: to hand out a number of items it draws the shortest
front of the feed in which so many are no repeats. The invariant behind this is that the
successes it has seen are those of the items drawn so far. So an item is passed over
exactly if it is a repeat behind the items drawn before it, and what is said of a feed
without repeats is said of one that goes on after some items, by induction on the feed.

Key definitions: `Feed.IsRepeat`, `Feed.withoutRepeats`, `Feed.IsShortest`.
Key theorems: `Feed.uniqueAfter_item`, `Feed.uniqueAfter_repeat`, `Feed.toList_uniqueAfter`,
`Feed.uniqueAfter_uniqueAfter`, `Feed.exists_isShortestAfter`, `Feed.draw_uniqueAfter`,
`Feed.harvest_unique`, `Feed.unique_drops_repeats_lazily`.
-/
import ReversibleGrammar.Proofs.Feed.Drawing

namespace ReversibleGrammar
namespace Feed

variable {ε α : Type}

/-! ### Repeats in a list -/

/-- The successes among some items. -/
def succeeded (xs : List (Except ε α)) : List α :=
  xs.filterMap Except.toOption

/-- The item is a success that is among those before it. -/
def IsRepeat (before : List (Except ε α)) (x : Except ε α) : Prop :=
  ∃ a, x = .ok a ∧ .ok a ∈ before

theorem mem_succeeded {xs : List (Except ε α)} {a : α} : a ∈ succeeded xs ↔ .ok a ∈ xs := by
  rw [succeeded, List.mem_filterMap]
  constructor
  · rintro ⟨x, mem, isOk⟩
    cases x with
    | ok b =>
      cases isOk
      exact mem
    | error fault => cases isOk
  · intro mem
    exact ⟨.ok a, mem, rfl⟩

theorem isRepeat_ok {before : List (Except ε α)} {a : α} :
    IsRepeat before (.ok a) ↔ a ∈ succeeded before := by
  rw [mem_succeeded]
  constructor
  · rintro ⟨_, same, mem⟩
    cases same
    exact mem
  · intro mem
    exact ⟨a, rfl, mem⟩

theorem not_isRepeat_error {before : List (Except ε α)} {fault : ε} :
    ¬ IsRepeat before (.error fault) := by
  rintro ⟨_, same, -⟩
  cases same

variable [DecidableEq α]

instance (before : List (Except ε α)) : DecidablePred (IsRepeat before)
  | .ok _ => decidable_of_iff _ isRepeat_ok.symm
  | .error _ => .isFalse not_isRepeat_error

/-- The items that are no repeats, in order, if others came before the first of them. -/
def freshAfter (before xs : List (Except ε α)) : List (Except ε α) :=
  (xs.zipIdx.filter fun entry => ¬ IsRepeat (before ++ xs.take entry.2) entry.1).map Prod.fst

/-- The items of a list without the successes that equal an earlier one. -/
def withoutRepeats (xs : List (Except ε α)) : List (Except ε α) :=
  freshAfter [] xs

/-- The first item is kept unless it is a repeat, and is one of those before the others. -/
theorem freshAfter_cons (before : List (Except ε α)) (x : Except ε α) (xs : List (Except ε α)) :
    freshAfter before (x :: xs) =
      (if IsRepeat before x then [] else [x]) ++ freshAfter (before ++ [x]) xs := by
  -- Among the others a position is one further on, and the first item is among those before it.
  have behind : freshAfter (before ++ [x]) xs = ((xs.zipIdx.map (Prod.map id (· + 1))).filter
      fun entry => ¬ IsRepeat (before ++ (x :: xs).take entry.2) entry.1).map Prod.fst := by
    have items : Prod.fst ∘ Prod.map id (· + 1) = (Prod.fst : Except ε α × Nat → Except ε α) := rfl
    rw [freshAfter, List.filter_map, List.map_map, items]
    refine congrArg _ (List.filter_congr fun entry _ => decide_eq_decide.mpr ?_)
    show ¬ IsRepeat (before ++ [x] ++ xs.take entry.2) entry.1 ↔
      ¬ IsRepeat (before ++ x :: xs.take entry.2) entry.1
    rw [List.append_assoc, List.singleton_append]
  rw [behind, freshAfter, List.zipIdx_cons', List.filter_cons]
  by_cases again : IsRepeat before x <;> simp [again]

/-! ### Without repeats -/

theorem uniqueAfter_congr {seen seen' : List α} (same : ∀ a, a ∈ seen ↔ a ∈ seen')
    (feed : Feed (Except ε α)) : feed.uniqueAfter seen = feed.uniqueAfter seen' := by
  induction feed generalizing seen seen' with
  | ended => rfl
  | item head rest ih =>
    cases head with
    | ok a =>
      have more : ∀ b, b ∈ a :: seen ↔ b ∈ a :: seen' := by simp [same]
      simp only [uniqueAfter, same, ih () same, ih () more]
    | error fault => simp only [uniqueAfter, ih () same]
  | trial rest ih => simp only [uniqueAfter, ih () same]

/-- The successes seen are those of the items before it, and one more of them when an item
that is no repeat is handed out. -/
theorem uniqueAfter_item {before : List (Except ε α)} {x : Except ε α} (fresh : ¬ IsRepeat before x)
    (rest : Unit → Feed (Except ε α)) :
    (item x rest).uniqueAfter (succeeded before) =
      item x fun _ => (rest ()).uniqueAfter (succeeded (before ++ [x])) := by
  cases x with
  | ok a =>
    have known : ∀ b, b ∈ a :: succeeded before ↔ b ∈ succeeded (before ++ [.ok a]) := by
      simp [mem_succeeded, or_comm]
    rw [uniqueAfter, if_neg (mt isRepeat_ok.mpr fresh), uniqueAfter_congr known]
  | error fault =>
    have known : ∀ b, b ∈ succeeded before ↔ b ∈ succeeded (before ++ [.error fault]) := by
      simp [mem_succeeded]
    rw [uniqueAfter, uniqueAfter_congr known]

/-- A repeat is passed over, and the successes seen are still those of the items before. -/
theorem uniqueAfter_repeat {before : List (Except ε α)} {x : Except ε α} (again : IsRepeat before x)
    (rest : Unit → Feed (Except ε α)) :
    (item x rest).uniqueAfter (succeeded before) =
      (rest ()).uniqueAfter (succeeded (before ++ [x])) := by
  obtain ⟨a, rfl, mem⟩ := again
  have known : ∀ b, b ∈ succeeded before ↔ b ∈ succeeded (before ++ [.ok a]) := by
    intro b
    rw [mem_succeeded, mem_succeeded, List.mem_append, List.mem_singleton, or_iff_left_of_imp]
    intro same
    exact same ▸ mem
  rw [uniqueAfter, if_pos (mem_succeeded.mpr mem), uniqueAfter_congr known]

theorem toList_uniqueAfter (feed : Feed (Except ε α)) (before : List (Except ε α)) :
    (feed.uniqueAfter (succeeded before)).toList = freshAfter before feed.toList := by
  induction feed generalizing before with
  | ended => rfl
  | item x rest ih =>
    rw [toList, freshAfter_cons, ← ih ()]
    by_cases again : IsRepeat before x
    · rw [uniqueAfter_repeat again, if_pos again, List.nil_append]
    · rw [uniqueAfter_item again, if_neg again, toList, List.singleton_append]
  | trial rest ih => exact ih () before

/-- No trial is lost. -/
theorem trials_uniqueAfter (feed : Feed (Except ε α)) (seen : List α) :
    (feed.uniqueAfter seen).trials = feed.trials := by
  induction feed generalizing seen with
  | ended => rfl
  | item head rest ih =>
    cases head with
    | ok a =>
      rw [uniqueAfter]
      split
      · exact ih () seen
      · exact ih () (a :: seen)
    | error fault => exact ih () seen
  | trial rest ih => exact congrArg (· + 1) (ih () seen)

/-- A feed without repeats of what was seen has no repeats of a part of that either. -/
theorem uniqueAfter_uniqueAfter {seen seen' : List α} (less : seen' ⊆ seen)
    (feed : Feed (Except ε α)) :
    (feed.uniqueAfter seen).uniqueAfter seen' = feed.uniqueAfter seen := by
  induction feed generalizing seen seen' with
  | ended => rfl
  | item head rest ih =>
    cases head with
    | ok a =>
      by_cases again : a ∈ seen
      · rw [uniqueAfter, if_pos again, ih () less]
      · have fresh : a ∉ seen' := fun mem => again (less mem)
        rw [uniqueAfter, if_neg again, uniqueAfter, if_neg fresh, ih () (List.cons_subset_cons a less)]
    | error fault => rw [uniqueAfter, uniqueAfter, ih () less]
  | trial rest ih => rw [uniqueAfter, uniqueAfter, ih () less]

/-! ### The shortest front -/

/-- Of a list that others came before, `n` items are the shortest front with `k` that are
no repeats. -/
structure IsShortestAfter (before : List (Except ε α)) (k : Nat) (xs : List (Except ε α))
    (n : Nat) : Prop where
  enough : (freshAfter before (xs.take n)).length = k
  least : ∀ m, (freshAfter before (xs.take m)).length = k → n ≤ m

/-- The first `n` items of the list are the shortest front of which `k` items are no repeats. -/
def IsShortest (k : Nat) (xs : List (Except ε α)) (n : Nat) : Prop :=
  IsShortestAfter [] k xs n

/-- How many items that are no repeats are left to ask for behind an item, if `k + 1` are
asked for with it. -/
def remaining (before : List (Except ε α)) (x : Except ε α) (k : Nat) : Nat :=
  if IsRepeat before x then k + 1 else k

variable {before xs : List (Except ε α)} {x : Except ε α} {k n : Nat}

theorem length_freshAfter_cons (before : List (Except ε α)) (x : Except ε α)
    (xs : List (Except ε α)) (k : Nat) :
    (freshAfter before (x :: xs)).length + remaining before x k =
      (freshAfter (before ++ [x]) xs).length + (k + 1) := by
  rw [freshAfter_cons, remaining]
  by_cases again : IsRepeat before x
  · rw [if_pos again, if_pos again, List.nil_append]
  · rw [if_neg again, if_neg again, List.singleton_append, List.length_cons]
    omega

theorem isShortestAfter_zero : IsShortestAfter before 0 xs n ↔ n = 0 := by
  constructor
  · intro shortest
    exact Nat.le_zero.mp (shortest.least 0 rfl)
  · rintro rfl
    exact ⟨rfl, fun m _ => Nat.zero_le m⟩

/-- A shortest front is an item and the shortest front behind it for what remains. -/
theorem isShortestAfter_cons : IsShortestAfter before (k + 1) (x :: xs) (n + 1) ↔
    IsShortestAfter (before ++ [x]) (remaining before x k) xs n := by
  have behind (m : Nat) : (freshAfter before ((x :: xs).take (m + 1))).length = k + 1 ↔
      (freshAfter (before ++ [x]) (xs.take m)).length = remaining before x k := by
    have lengths := length_freshAfter_cons before x (xs.take m) k
    rw [List.take_succ_cons]
    omega
  constructor
  · rintro ⟨enough, least⟩
    refine ⟨(behind n).mp enough, fun m enough => ?_⟩
    exact Nat.le_of_succ_le_succ (least (m + 1) ((behind m).mpr enough))
  · rintro ⟨enough, least⟩
    refine ⟨(behind n).mpr enough, fun m enough => ?_⟩
    cases m with
    | zero => cases enough
    | succ m => exact Nat.succ_le_succ (least m ((behind m).mp enough))

theorem IsShortestAfter.exists_cons (shortest : IsShortestAfter before (k + 1) xs n) :
    ∃ x rest m, xs = x :: rest ∧ n = m + 1 := by
  obtain ⟨enough, -⟩ := shortest
  cases n with
  | zero => cases enough
  | succ m =>
    cases xs with
    | nil => cases enough
    | cons x rest => exact ⟨x, rest, m, rfl, rfl⟩

/-- There is a shortest front for as many items as are no repeats. -/
theorem exists_isShortestAfter (le : k ≤ (freshAfter before xs).length) :
    ∃ n, IsShortestAfter before k xs n := by
  induction xs generalizing before k with
  | nil =>
    obtain rfl := Nat.le_zero.mp le
    exact ⟨0, isShortestAfter_zero.mpr rfl⟩
  | cons x rest ih =>
    cases k with
    | zero => exact ⟨0, isShortestAfter_zero.mpr rfl⟩
    | succ k =>
      have lengths := length_freshAfter_cons before x rest k
      have enough : remaining before x k ≤ (freshAfter (before ++ [x]) rest).length := by omega
      obtain ⟨n, shortest⟩ := ih enough
      exact ⟨n + 1, isShortestAfter_cons.mpr shortest⟩

/-- A shortest front goes no further than the list does. -/
theorem IsShortestAfter.le_length (shortest : IsShortestAfter before k xs n) : n ≤ xs.length := by
  refine Nat.le_of_not_lt fun longer => ?_
  have all : xs.take n = xs.take xs.length := by
    rw [List.take_of_length_le (Nat.le_of_lt longer), List.take_length]
  exact absurd (shortest.least xs.length (all ▸ shortest.enough)) (Nat.not_le_of_lt longer)

/-! ### What is drawn -/

/-- What a draw comes to if the repeats are taken out of what it brought, and out of what it left,
behind items that came before. -/
def Drawn.uniqueAfter (before : List (Except ε α)) (d : Drawn (Except ε α)) : Drawn (Except ε α) :=
  ⟨freshAfter before d.items, d.trials, d.rest.uniqueAfter (succeeded (before ++ d.items))⟩

/-- What a draw comes to if the repeats are taken out of what it brought, and out of what it left. -/
def Drawn.unique (d : Drawn (Except ε α)) : Drawn (Except ε α) :=
  d.uniqueAfter []

theorem Drawn.uniqueAfter_cons (before : List (Except ε α)) (x : Except ε α)
    (d : Drawn (Except ε α)) :
    ({ d with items := x :: d.items } : Drawn (Except ε α)).uniqueAfter before =
      { d.uniqueAfter (before ++ [x]) with
        items := (if IsRepeat before x then [] else [x]) ++ freshAfter (before ++ [x]) d.items } := by
  rw [uniqueAfter, uniqueAfter, freshAfter_cons, List.append_assoc, List.singleton_append]

theorem draw_uniqueAfter_zero {feed : Feed (Except ε α)}
    (shortest : IsShortestAfter before 0 feed.toList n) :
    (feed.uniqueAfter (succeeded before)).draw 0 = (feed.draw n).uniqueAfter before := by
  rw [isShortestAfter_zero.mp shortest, draw_zero, draw_zero, Drawn.uniqueAfter, List.append_nil]
  rfl

/-- Without repeats, a feed draws the shortest front that gives what it is asked for. -/
theorem draw_uniqueAfter {feed : Feed (Except ε α)}
    (shortest : IsShortestAfter before k feed.toList n) :
    (feed.uniqueAfter (succeeded before)).draw k = (feed.draw n).uniqueAfter before := by
  induction feed generalizing before k n with
  | ended =>
    cases k with
    | zero => exact draw_uniqueAfter_zero shortest
    | succ k =>
      obtain ⟨x, rest, m, none, -⟩ := shortest.exists_cons
      cases none
  | item x rest ih =>
    cases k with
    | zero => exact draw_uniqueAfter_zero shortest
    | succ k =>
      obtain ⟨-, -, m, -, rfl⟩ := shortest.exists_cons
      have later := ih () (isShortestAfter_cons.mp shortest)
      rw [draw, Drawn.uniqueAfter_cons]
      -- A repeat is drawn and not handed out, so that as much is asked for behind it as with it.
      by_cases again : IsRepeat before x
      · rw [remaining, if_pos again] at later
        rw [uniqueAfter_repeat again, later, if_pos again]
        rfl
      · rw [remaining, if_neg again] at later
        rw [uniqueAfter_item again, draw, later, if_neg again]
        rfl
  | trial rest ih =>
    cases k with
    | zero => exact draw_uniqueAfter_zero shortest
    | succ k =>
      obtain ⟨-, -, m, -, rfl⟩ := shortest.exists_cons
      rw [Feed.uniqueAfter, draw, draw, ih () shortest]
      rfl

theorem draw_unique {feed : Feed (Except ε α)} (shortest : IsShortest k feed.toList n) :
    feed.unique.draw k = (feed.draw n).unique :=
  draw_uniqueAfter shortest

theorem toList_unique (feed : Feed (Except ε α)) :
    feed.unique.toList = withoutRepeats feed.toList :=
  feed.toList_uniqueAfter []

/-- Asked for more than it has, a feed without repeats drains the feed. -/
theorem draw_unique_of_length_lt {feed : Feed (Except ε α)}
    (lt : (withoutRepeats feed.toList).length < k) :
    feed.unique.draw k = ⟨withoutRepeats feed.toList, feed.trials, ended⟩ := by
  rw [draw_of_length_lt (by rwa [toList_unique]), toList_unique, unique, trials_uniqueAfter]

/-- A feed that counts is asked once for each item of the shortest front. -/
theorem trials_draw_unique_counting {xs : List (Except ε α)} (shortest : IsShortest k xs n) :
    ((counting xs).unique.draw k).trials = n := by
  rw [draw_unique (by rwa [toList_counting])]
  exact trials_draw_counting shortest.le_length

/-! ### What is read -/

/-- It does not matter whether the feed ends at its first fault before or after the repeats
are taken away. -/
theorem upToFault_uniqueAfter (feed : Feed (Except ε α)) (seen : List α) :
    (feed.uniqueAfter seen).upToFault = feed.upToFault.uniqueAfter seen := by
  induction feed generalizing seen with
  | ended => rfl
  | item head rest ih =>
    cases head with
    | ok a =>
      by_cases again : a ∈ seen
      · rw [uniqueAfter, upToFault, uniqueAfter, if_pos again, if_pos again, ih ()]
      · rw [uniqueAfter, upToFault, uniqueAfter, if_neg again, if_neg again, upToFault, ih ()]
    | error fault => rfl
  | trial rest ih => rw [uniqueAfter, upToFault, upToFault, uniqueAfter, ih ()]

/-- A reading without repeats brings what is read of the shortest front, and makes its trials. -/
theorem harvest_unique {feed : Feed (Except ε α)} (shortest : IsShortest k feed.outcomes n) :
    (feed.unique.harvest k).outcomes = withoutRepeats (feed.harvest n).outcomes ∧
      (feed.unique.harvest k).trials = (feed.harvest n).trials := by
  rw [← toList_upToFault] at shortest
  have drawn : feed.unique.upToFault.draw k = (feed.upToFault.draw n).unique := by
    rw [unique, upToFault_uniqueAfter]
    exact draw_unique shortest
  simp only [outcomes_harvest_eq, trials_harvest_eq, drawn]
  exact ⟨rfl, rfl⟩

/-- **Repeats are dropped lazily.** A feed without repeats hands out the items of the feed in
order, without the successes that equal an earlier one and with every fault in its place; to
drop repeats twice is to drop them once. Asked for as many items as it has or fewer, it draws
the shortest front of the feed that gives as many, so that a feed that counts how often it is
asked counts the items of that front, and it leaves what the feed has left, with the successes
of the front as seen; asked for more, it drains the feed. The same front of what comes before
the first fault is read when repeats are dropped in reading. -/
theorem unique_drops_repeats_lazily (feed : Feed (Except ε α)) :
    feed.unique.toList = withoutRepeats feed.toList ∧
    feed.unique.unique = feed.unique ∧
    (∀ k ≤ (withoutRepeats feed.toList).length, ∃ n, IsShortest k feed.toList n ∧
      feed.unique.draw k = (feed.draw n).unique ∧
      ((counting feed.toList).unique.draw k).trials = n) ∧
    (∀ k > (withoutRepeats feed.toList).length,
      feed.unique.draw k = ⟨withoutRepeats feed.toList, feed.trials, ended⟩) ∧
    (∀ k ≤ (withoutRepeats feed.outcomes).length, ∃ n, IsShortest k feed.outcomes n ∧
      (feed.unique.harvest k).outcomes = withoutRepeats (feed.harvest n).outcomes ∧
      (feed.unique.harvest k).trials = (feed.harvest n).trials) := by
  refine ⟨feed.toList_unique, uniqueAfter_uniqueAfter (List.Subset.refl _) feed, fun k le => ?_,
    fun k lt => draw_unique_of_length_lt lt, fun k le => ?_⟩
  · obtain ⟨n, shortest⟩ := exists_isShortestAfter le
    exact ⟨n, shortest, draw_unique shortest, trials_draw_unique_counting shortest⟩
  · obtain ⟨n, shortest⟩ := exists_isShortestAfter le
    exact ⟨n, shortest, harvest_unique shortest⟩

/-- A feed with a repeat before its first fault, one behind it, and the same fault again. -/
def echoing : Feed (Except String Nat) :=
  trial fun _ => item (.ok 1) fun _ => item (.ok 1) fun _ => trial fun _ =>
    item (.error "lost") fun _ => trial fun _ => item (.ok 2) fun _ => trial fun _ =>
      item (.ok 1) fun _ => item (.error "lost") fun _ => trial fun _ => ended

/-- Four items are drawn for three that are no repeats: the second of them is one. -/
theorem echoing_drops_repeats :
    3 ≤ (withoutRepeats echoing.toList).length ∧
    IsShortest 3 echoing.toList 4 ∧
    echoing.unique.draw 3 = (echoing.draw 4).unique ∧
    5 > (withoutRepeats echoing.toList).length ∧
    echoing.unique.draw 5 = ⟨[.ok 1, .error "lost", .ok 2, .error "lost"], 5, ended⟩ ∧
    2 ≤ (withoutRepeats echoing.outcomes).length ∧
    ∃ n, IsShortest 2 echoing.outcomes n ∧
      (echoing.unique.harvest 2).outcomes = withoutRepeats (echoing.harvest n).outcomes ∧
      (echoing.unique.harvest 2).trials = (echoing.harvest n).trials := by
  obtain ⟨-, -, drawn, drained, read⟩ := unique_drops_repeats_lazily echoing
  obtain ⟨n, shortest, front, asked⟩ := drawn 3 (by decide)
  obtain rfl : 4 = n := asked
  exact ⟨by decide, shortest, front, by decide, drained 5 (by decide), by decide, read 2 (by decide)⟩

end Feed
end ReversibleGrammar
