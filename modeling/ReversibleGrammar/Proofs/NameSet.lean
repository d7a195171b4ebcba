/-
# Equal sets of names

A set of names is kept in one form only, so it is known by its members.

Key theorems: `NameSet.ext`.
-/
import Mathlib.Data.List.Nodup
import ReversibleGrammar.NameSet

namespace ReversibleGrammar
namespace NameSet

/-- A set of names is known by its members. -/
theorem ext {a b : NameSet} (same : ∀ name, name ∈ a ↔ name ∈ b) : a = b := by
  obtain ⟨names, ascending⟩ := a
  obtain ⟨others, ascending'⟩ := b
  have perm : names.Perm others :=
    (List.perm_ext_iff_of_nodup (ascending.imp String.ne_of_lt)
      (ascending'.imp String.ne_of_lt)).mpr same
  congr
  refine perm.eq_of_pairwise (fun x y _ _ below above => ?_) ascending ascending'
  exact absurd above (String.lt_asymm below)

end NameSet
end ReversibleGrammar
