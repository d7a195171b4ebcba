/-
# Ranks in a graph without cycles

The rank of a name among some names is how many of them it reaches. An arrow from a
name that is on no cycle leads to a lower rank: what is reached after the arrow was
reached before it, and the name itself is not reached again. So a way through a graph
without cycles passes fewer names than there are. From a name on a cycle, on the other
hand, some arrow always leads to another such name.

Key definitions: `Graph.rank`.
Key theorems: `Graph.rank_lt_of_arrow`, `Graph.exists_arrow_of_onCycle`.
-/
import Mathlib.Data.Finset.Card
import ReversibleGrammar.Graph

namespace ReversibleGrammar
namespace Graph

variable {g : Graph} {names : Finset String} {a b c : String}

instance (a b : String) : Decidable (g.Reaches a b) :=
  decidable_of_iff (b ∈ g.visit [a]) (by simp [mem_visit])

theorem Reaches.trans (first : g.Reaches a b) (second : g.Reaches b c) : g.Reaches a c := by
  induction first with
  | here => exact second
  | step arrow _ ih => exact .step arrow (ih second)

/-- How many of the names can be reached from a name. -/
def rank (g : Graph) (names : Finset String) (a : String) : Nat :=
  (names.filter fun x => g.Reaches a x).card

theorem rank_le_card (a : String) : g.rank names a ≤ names.card :=
  Finset.card_filter_le _ _

/-- A name reaches itself. -/
theorem rank_pos (mem : a ∈ names) : 0 < g.rank names a :=
  Finset.card_pos.mpr ⟨a, Finset.mem_filter.mpr ⟨mem, .here a⟩⟩

/-- An arrow from a name on no cycle leads to a lower rank. -/
theorem rank_lt_of_arrow (mem : a ∈ names) (noCycle : g.onCycle a = false) (arrow : g.Arrow a b) :
    g.rank names b < g.rank names a := by
  unfold rank
  apply Finset.card_lt_card
  refine ⟨fun x reached => ?_, fun sub => ?_⟩
  · rw [Finset.mem_filter] at reached ⊢
    exact ⟨reached.1, .step arrow reached.2⟩
  · -- What reaches as much as `a` reaches `a` too, which closes a cycle.
    have back : g.Reaches b a :=
      (Finset.mem_filter.mp (sub (Finset.mem_filter.mpr ⟨mem, .here a⟩))).2
    have cycle : g.onCycle a = true := onCycle_iff.mpr ⟨b, arrow, back⟩
    rw [noCycle] at cycle
    cases cycle

/-- A cycle can be followed by an arrow to another name on it. -/
theorem exists_arrow_of_onCycle (cycle : g.onCycle a = true) :
    ∃ b, g.Arrow a b ∧ g.onCycle b = true := by
  obtain ⟨b, arrow, back⟩ := onCycle_iff.mp cycle
  refine ⟨b, arrow, ?_⟩
  cases back with
  | here => exact cycle
  | @step _ c _ next rest =>
    have around : g.Reaches c b := rest.trans (.step arrow (.here b))
    exact onCycle_iff.mpr ⟨c, next, around⟩

end Graph
end ReversibleGrammar
