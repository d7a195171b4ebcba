/-
# Tables of lists

A table holds a list for each of some names. Its rows stand in some order, which says
nothing: it may come from hashing. A name without a row is read as one with an empty
list, and gets a row when its list is changed.

Key definitions: `Table`, `Table.row`, `Table.change`, `Table.Rearranges`.
Key theorems: `Table.row_change`, `Table.mem_change`, `Table.sum_rows`.
-/
import Mathlib.Algebra.GroupWithZero.Nat
import Mathlib.Data.List.AList

namespace ReversibleGrammar

/-- A list for each of some names, the rows in whatever order. -/
abbrev Table (α : Type) : Type :=
  AList fun _ : String => List α

namespace Table

variable {α : Type} {t t' : Table α} {name other : String} {x : α}

/-- The list of a name, empty if it has no row. -/
def row (t : Table α) (name : String) : List α :=
  (t.lookup name).getD []

/-- Changes the list of a name, which starts as the empty one if the name has no row. -/
def change (t : Table α) (name : String) (f : List α → List α) : Table α :=
  t.insert name (f (t.row name))

theorem mem_of_mem_row (mem : x ∈ t.row name) : name ∈ t := by
  rw [row] at mem
  cases found : t.lookup name with
  | none =>
    rw [found] at mem
    exact absurd mem List.not_mem_nil
  | some held => exact AList.lookup_isSome.mp (by rw [found]; rfl)

theorem lookup_eq_some_row (mem : name ∈ t) : t.lookup name = some (t.row name) := by
  obtain ⟨held, found⟩ := Option.isSome_iff_exists.mp (AList.lookup_isSome.mpr mem)
  rw [row, found]
  rfl

theorem row_change (t : Table α) (name other : String) (f : List α → List α) :
    (t.change name f).row other = if other = name then f (t.row name) else t.row other := by
  by_cases same : other = name
  · rw [if_pos same, same, row, change, AList.lookup_insert]
    rfl
  · rw [if_neg same, row, change, AList.lookup_insert_ne same]
    rfl

theorem mem_change {f : List α → List α} : other ∈ t.change name f ↔ other = name ∨ other ∈ t :=
  AList.mem_insert t

/-! ### Sums over the rows -/

/-- What rows weigh together is the weight of one row and that of all others. -/
theorem sum_rows (t : Table α) (name : String) (weight : (_ : String) × List α → Nat) :
    (t.entries.map weight).sum =
      ((t.lookup name).elim 0 fun held => weight ⟨name, held⟩) +
        ((t.erase name).entries.map weight).sum := by
  by_cases mem : name ∈ t
  · obtain ⟨held, before, after, -, split, rest⟩ := List.exists_of_kerase mem
    have found : t.lookup name = some held := by
      rw [← Option.mem_def, AList.mem_lookup_iff, split]
      exact List.mem_append_right _ List.mem_cons_self
    have others : (t.erase name).entries = before ++ after := rest
    rw [found, others, split]
    simp only [List.map_append, List.map_cons, List.sum_append, List.sum_cons, Option.elim_some]
    omega
  · have others : (t.erase name).entries = t.entries := List.kerase_of_notMem_keys mem
    rw [AList.lookup_eq_none.mpr mem, others, Option.elim_none, Nat.zero_add]

/-- The length of all lists together. -/
def size (t : Table α) : Nat :=
  (t.entries.map fun row => row.2.length).sum

theorem size_eq (t : Table α) (name : String) :
    t.size = (t.row name).length + size (t.erase name) := by
  have split := t.sum_rows name fun row => row.2.length
  rw [size, split, row]
  cases t.lookup name <;> rfl

theorem size_change (t : Table α) (name : String) (f : List α → List α) :
    (t.change name f).size + (t.row name).length = t.size + (f (t.row name)).length := by
  have changed : (t.change name f).size = (f (t.row name)).length + size (t.erase name) := rfl
  rw [changed, t.size_eq name]
  omega

/-! ### Other orders -/

/-- The second table holds the same rows as the first one, in any order, and each list with
the same members, in any order. -/
structure Rearranges (t t' : Table α) : Prop where
  keys : t.keys.Perm t'.keys
  row : ∀ name, (t.row name).Perm (t'.row name)

/-- Only the lists of names with a row have to be compared. -/
theorem rearranges_of_keys (keys : t.keys.Perm t'.keys)
    (rows : ∀ name ∈ t.keys, (t.row name).Perm (t'.row name)) : t.Rearranges t' := by
  refine ⟨keys, fun name => ?_⟩
  by_cases mem : name ∈ t.keys
  · exact rows name mem
  · have absent : name ∉ t'.keys := mt keys.mem_iff.mpr mem
    rw [Table.row, Table.row, AList.lookup_eq_none.mpr mem, AList.lookup_eq_none.mpr absent]

end Table
end ReversibleGrammar
