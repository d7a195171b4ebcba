/-
# Ranges of code points

A character property is given by the ranges of code points that have it, in
ascending order; looking a code point up ends at the first range above it.

Key definitions: `Ranges`, `Ranges.holds`.
Key theorems: `Ranges.exists_of_holds`.
-/

namespace ReversibleGrammar
namespace Unicode

/-- Closed ranges of code points, in ascending order. -/
abbrev Ranges : Type := List (Nat × Nat)

/-- Whether a code point lies in one of the ranges. -/
def Ranges.holds : Ranges → Nat → Bool
  | [], _ => false
  | (first, last) :: rest, n =>
    if n < first then false
    else if n ≤ last then true
    else Ranges.holds rest n

/-- A code point that is found lies in a range of the list. -/
theorem Ranges.exists_of_holds : ∀ {ranges : Ranges} {n : Nat}, ranges.holds n = true →
    ∃ range ∈ ranges, range.1 ≤ n ∧ n ≤ range.2
  | [], _, h => by simp [holds] at h
  | (first, last) :: rest, n, h => by
    unfold holds at h
    split at h
    · cases h
    · split at h
      · exact ⟨(first, last), List.mem_cons_self, by omega, by assumption⟩
      · obtain ⟨range, hmem, hle⟩ := exists_of_holds h
        exact ⟨range, List.mem_cons_of_mem _ hmem, hle⟩

end Unicode
end ReversibleGrammar
