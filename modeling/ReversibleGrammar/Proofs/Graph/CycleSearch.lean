/-
# Searching a table for cycles

A table of targets leads from each name with a row to the names in it. Whether a name leads
back to itself is found with a stack of names to look at and a list of those seen. A turn
takes the top off the stack. If it is the start, the search is over; if it was seen before,
it is dropped; else it is seen now, and what it leads to is put on the stack.

A turn lowers a potential, the names on the stack and the targets of all that is not seen,
so the search ends on every table, whatever cycles it has. All it comes to is reached from
the start, and all that the start and the names seen lead to is seen or on the stack. So
it ends with the start on top just if the start is reached from itself. In what order the
table holds its rows, and a row its targets, makes no difference.

Key definitions: `Table.Leads`, `Table.turn?`, `Table.hunt`, `Table.cyclic`.
Key theorems: `Table.potential_turn`, `Table.returns_iff`, `Table.mem_cyclic_iff`,
`Table.cyclic_of_rearranges`.
-/
import Mathlib.Logic.Relation
import ReversibleGrammar.NameSet
import ReversibleGrammar.Proofs.NameSet
import ReversibleGrammar.Proofs.Table

namespace ReversibleGrammar

/-- A search in progress: the names it has seen, and those it has still to look at, the next
one first. -/
structure Hunt where
  seen : List String
  stack : List String

namespace Table

open Relation (TransGen)

variable {t t' : Table String} {start name : String} {h next : Hunt}

/-- The first name leads to the second in one step. -/
def Leads (t : Table String) (a b : String) : Prop :=
  b ∈ t.row a

/-! ### Turns -/

/-- One turn of the search for the start. There is none when nothing is left to look at, or
when the start is found. -/
def turn? (t : Table String) (start : String) (h : Hunt) : Option Hunt :=
  match h.stack with
  | [] => none
  | name :: stack =>
    if name = start then none
    else if name ∈ h.seen then some ⟨h.seen, stack⟩
    else some ⟨name :: h.seen, (t.row name).reverse ++ stack⟩

/-- What a turn does: it drops a name that was seen, or it sees one and goes on to its targets. -/
theorem turn_cases (turn : t.turn? start h = some next) : ∃ name stack,
    h.stack = name :: stack ∧ name ≠ start ∧
      (name ∈ h.seen ∧ next = ⟨h.seen, stack⟩ ∨
        name ∉ h.seen ∧ next = ⟨name :: h.seen, (t.row name).reverse ++ stack⟩) := by
  unfold turn? at turn
  split at turn
  · cases turn
  · rename_i name stack top
    by_cases found : name = start
    · rw [if_pos found] at turn
      cases turn
    · rw [if_neg found] at turn
      refine ⟨name, stack, top, found, ?_⟩
      by_cases old : name ∈ h.seen
      · rw [if_pos old] at turn
        exact .inl ⟨old, (Option.some.inj turn).symm⟩
      · rw [if_neg old] at turn
        exact .inr ⟨old, (Option.some.inj turn).symm⟩

/-- What was seen or waited on the stack is seen or waits after the turn. -/
theorem turn_keeps (turn : t.turn? start h = some next) (there : name ∈ h.seen ∨ name ∈ h.stack) :
    name ∈ next.seen ∨ name ∈ next.stack := by
  obtain ⟨first, stack, top, -, step⟩ := turn_cases turn
  rw [top, List.mem_cons] at there
  rcases step with ⟨old, rfl⟩ | ⟨-, rfl⟩
  · rcases there with seen | rfl | waiting
    · exact .inl seen
    · exact .inl old
    · exact .inr waiting
  · rcases there with seen | rfl | waiting
    · exact .inl (List.mem_cons_of_mem _ seen)
    · exact .inl List.mem_cons_self
    · exact .inr (List.mem_append_right _ waiting)

theorem turn_eq_none_iff :
    t.turn? start h = none ↔ h.stack = [] ∨ ∃ stack, h.stack = start :: stack := by
  unfold turn?
  split
  · rename_i empty
    exact iff_of_true rfl (.inl empty)
  · rename_i name stack top
    rw [top]
    by_cases found : name = start
    · rw [if_pos found, found]
      exact iff_of_true rfl (.inr ⟨stack, rfl⟩)
    · rw [if_neg found]
      refine iff_of_false (by split <;> exact Option.some_ne_none _) ?_
      rintro (empty | ⟨stack', same⟩)
      · cases empty
      · exact found (List.cons.inj same).1

/-! ### The search ends -/

/-- How many targets the names that are not seen have. -/
def unseen (t : Table String) (seen : List String) : Nat :=
  (t.entries.map fun row => if row.1 ∈ seen then 0 else row.2.length).sum

/-- What is left to do at most: the names to look at, and those still to come. -/
def potential (t : Table String) (h : Hunt) : Nat :=
  h.stack.length + t.unseen h.seen

/-- The targets of a name are counted until the name is seen. -/
theorem unseen_cons (t : Table String) {seen : List String} (fresh : name ∉ seen) :
    t.unseen seen = (t.row name).length + t.unseen (name :: seen) := by
  have others : (t.erase name).entries.map (fun row => if row.1 ∈ name :: seen then 0 else row.2.length) =
      (t.erase name).entries.map fun row => if row.1 ∈ seen then 0 else row.2.length := by
    refine List.map_congr_left fun entry mem => ?_
    have inRest : entry.1 ∈ t.erase name := List.mem_keys_of_mem mem
    have apart : entry.1 ≠ name := (AList.mem_erase.mp inRest).1
    simp only [List.mem_cons, apart, false_or]
  have before := t.sum_rows name fun row => if row.1 ∈ seen then 0 else row.2.length
  have after := t.sum_rows name fun row => if row.1 ∈ name :: seen then 0 else row.2.length
  rw [unseen, unseen, before, after, others, row]
  cases t.lookup name with
  | none => simp
  | some held => simp [fresh]

/-- **The search ends.** Every turn lowers the potential. -/
theorem potential_turn (turn : t.turn? start h = some next) : t.potential next < t.potential h := by
  obtain ⟨name, stack, top, -, ⟨-, rfl⟩ | ⟨fresh, rfl⟩⟩ := turn_cases turn
  · simp only [potential, top, List.length_cons]
    omega
  · have counted := t.unseen_cons fresh
    simp only [potential, top, List.length_cons, List.length_append, List.length_reverse]
    omega

/-- Takes turns until there is none. -/
def hunt (t : Table String) (start : String) (h : Hunt) : Hunt :=
  match _turn : t.turn? start h with
  | none => h
  | some next => hunt t start next
termination_by t.potential h
decreasing_by exact potential_turn _turn

/-- A search is over when no turn is left. -/
theorem turn_hunt (t : Table String) (start : String) (h : Hunt) :
    t.turn? start (t.hunt start h) = none := by
  fun_induction hunt t start h with
  | case1 h ended => exact ended
  | case2 h next _ ih => exact ih

/-! ### What it finds -/

/-- What holds of a search for the start at any time. -/
structure Hunting (t : Table String) (start : String) (h : Hunt) : Prop where
  reached : ∀ name ∈ h.stack, TransGen t.Leads start name
  seenReached : ∀ name ∈ h.seen, TransGen t.Leads start name
  fresh : start ∉ h.seen
  fromStart : ∀ name, t.Leads start name → name ∈ h.seen ∨ name ∈ h.stack
  fromSeen : ∀ a ∈ h.seen, ∀ b, t.Leads a b → b ∈ h.seen ∨ b ∈ h.stack

theorem hunting_turn (hunting : t.Hunting start h) (turn : t.turn? start h = some next) :
    t.Hunting start next := by
  have kept : ∀ b, b ∈ h.seen ∨ b ∈ h.stack → b ∈ next.seen ∨ b ∈ next.stack :=
    fun b => turn_keeps turn
  have fromStart : ∀ b, t.Leads start b → b ∈ next.seen ∨ b ∈ next.stack :=
    fun b leads => kept b (hunting.fromStart b leads)
  have fromOld : ∀ a ∈ h.seen, ∀ b, t.Leads a b → b ∈ next.seen ∨ b ∈ next.stack :=
    fun a seen b leads => kept b (hunting.fromSeen a seen b leads)
  obtain ⟨name, stack, top, other, ⟨-, rfl⟩ | ⟨-, rfl⟩⟩ := turn_cases turn
  · have below : ∀ b ∈ stack, b ∈ h.stack := fun b mem => top ▸ List.mem_cons_of_mem _ mem
    exact ⟨fun b mem => hunting.reached b (below b mem), hunting.seenReached, hunting.fresh,
      fromStart, fromOld⟩
  · have here : TransGen t.Leads start name := hunting.reached name (top ▸ List.mem_cons_self)
    refine ⟨fun b mem => ?_, List.forall_mem_cons.mpr ⟨here, hunting.seenReached⟩,
      List.not_mem_cons_of_ne_of_not_mem other.symm hunting.fresh, fromStart, ?_⟩
    · rcases List.mem_append.mp mem with target | waiting
      · exact here.tail (List.mem_reverse.mp target)
      · exact hunting.reached b (top ▸ List.mem_cons_of_mem _ waiting)
    · -- The name seen last has all its targets on the stack.
      refine List.forall_mem_cons.mpr ⟨fun b leads => ?_, fromOld⟩
      exact .inr (List.mem_append_left _ (List.mem_reverse.mpr leads))

theorem hunting_hunt (hunting : t.Hunting start h) : t.Hunting start (t.hunt start h) := by
  fun_induction hunt t start h with
  | case1 h ended => exact hunting
  | case2 h next turn ih => exact ih (hunting_turn hunting turn)

/-- The search for a name, which begins with its own targets. -/
def begin (t : Table String) (start : String) : Hunt :=
  ⟨[], (t.row start).reverse⟩

theorem hunting_begin (t : Table String) (start : String) : t.Hunting start (t.begin start) where
  reached _ mem := .single (List.mem_reverse.mp mem)
  seenReached _ mem := absurd mem List.not_mem_nil
  fresh := List.not_mem_nil
  fromStart _ leads := .inr (List.mem_reverse.mpr leads)
  fromSeen _ mem := absurd mem List.not_mem_nil

/-- Whether the search for a name finds it. -/
def returns (t : Table String) (start : String) : Bool :=
  !(t.hunt start (t.begin start)).stack.isEmpty

/-- When nothing is left to look at, all that the start reaches has been seen. -/
theorem Hunting.seen_of_reached (hunting : t.Hunting start h) (empty : h.stack = [])
    (way : TransGen t.Leads start name) : name ∈ h.seen := by
  have seen : ∀ b, b ∈ h.seen ∨ b ∈ h.stack → b ∈ h.seen := by
    rw [empty]
    exact fun b there => there.resolve_right List.not_mem_nil
  induction way with
  | single leads => exact seen _ (hunting.fromStart _ leads)
  | tail _ leads ih => exact seen _ (hunting.fromSeen _ ih _ leads)

/-- The search finds the names that lead back to themselves, and only those. -/
theorem returns_iff : t.returns start = true ↔ TransGen t.Leads start start := by
  have hunting := hunting_hunt (hunting_begin t start)
  rw [returns]
  rcases turn_eq_none_iff.mp (t.turn_hunt start (t.begin start)) with empty | ⟨stack, top⟩
  · rw [empty]
    refine iff_of_false Bool.false_ne_true fun way => ?_
    exact hunting.fresh (hunting.seen_of_reached empty way)
  · rw [top]
    exact iff_of_true rfl (hunting.reached start (top ▸ List.mem_cons_self))

/-! ### All names on cycles -/

/-- The names with a row that lead back to themselves, found by one search each. -/
def cyclic (t : Table String) : NameSet :=
  .ofList (t.keys.filter t.returns)

theorem mem_cyclic_iff : name ∈ t.cyclic ↔ TransGen t.Leads name name := by
  rw [cyclic, NameSet.mem_ofList, List.mem_filter, returns_iff]
  refine and_iff_right_of_imp fun way => ?_
  obtain ⟨next, leads, -⟩ := TransGen.head'_iff.mp way
  exact mem_of_mem_row leads

/-- **The order of a table makes no difference.** -/
theorem cyclic_of_rearranges (same : t.Rearranges t') : t'.cyclic = t.cyclic := by
  have leads : t'.Leads = t.Leads := by
    funext a b
    exact propext (same.row a).mem_iff.symm
  refine NameSet.ext fun name => ?_
  rw [mem_cyclic_iff, mem_cyclic_iff, leads]

end Table
end ReversibleGrammar
