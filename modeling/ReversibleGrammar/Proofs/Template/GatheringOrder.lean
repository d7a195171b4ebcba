/-
# The order of gathering

Gathering joins what the members of a list yield, one after the other. Since unions form a
partial commutative monoid, neither its success nor its result depends on the order of the
members: they may be permuted, parts of the list may be gathered apart and united, and of
members that can be gathered any part can.

Key theorems: `Template.gather_perm`, `Template.gather_append_eq_ok_iff`,
`Template.exists_gather_of_sublist`.
-/
import ReversibleGrammar.Proofs.Assignment.Laws
import ReversibleGrammar.Proofs.Template.Gathering

namespace ReversibleGrammar
namespace Template

open Assignment

variable {α β : Type} {f g : α → Except Obstacle Assignment} {width : Nat}

/-- What is gathered depends on what each member yields only. -/
theorem gather_congr : ∀ {as : List α} {flat result : Assignment},
    (∀ a ∈ as, ∀ found, f a = .ok found ↔ g a = .ok found) →
      (gather f as flat = .ok result ↔ gather g as flat = .ok result)
  | [], _, _, _ => Iff.rfl
  | a :: rest, flat, result, same => by
    obtain ⟨here, others⟩ := List.forall_mem_cons.mp same
    simp only [gather_cons_eq_ok_iff, here, gather_congr others]

theorem gather_map (h : β → α) : ∀ (bs : List β) (flat : Assignment),
    gather f (bs.map h) flat = gather (fun b => f (h b)) bs flat
  | [], _ => rfl
  | b :: rest, flat => by simp only [List.map_cons, gather, gather_map h rest]

/-! ### Success in any order -/

theorem union_right_comm {a b c x d : Assignment} (first : a.union b = .ok x)
    (second : x.union c = .ok d) : ∃ y, a.union c = .ok y ∧ y.union b = .ok d := by
  obtain ⟨y, both, all⟩ := union_assoc.mp ⟨x, first, second⟩
  exact union_assoc.mpr ⟨y, union_comm.mp both, all⟩

theorem gather_swap {a b : α} {rest : List α} {flat result : Assignment}
    (h : gather f (a :: b :: rest) flat = .ok result) :
    gather f (b :: a :: rest) flat = .ok result := by
  obtain ⟨x, yieldsA, withA, joinsA, h⟩ := gather_cons_eq_ok_iff.mp h
  obtain ⟨y, yieldsB, both, joinsB, h⟩ := gather_cons_eq_ok_iff.mp h
  obtain ⟨withB, first, second⟩ := union_right_comm joinsA joinsB
  have later : gather f (a :: rest) withB = .ok result :=
    gather_cons_eq_ok_iff.mpr ⟨x, yieldsA, both, second, h⟩
  exact gather_cons_eq_ok_iff.mpr ⟨y, yieldsB, withB, first, later⟩

/-- What is gathered does not depend on the order of the members. -/
theorem gather_perm {as bs : List α} (perm : as.Perm bs) : ∀ {flat result : Assignment},
    gather f as flat = .ok result ↔ gather f bs flat = .ok result := by
  induction perm with
  | nil => exact Iff.rfl
  | cons a _ ih => simp only [gather_cons_eq_ok_iff, ih, implies_true]
  | swap a b rest => exact ⟨gather_swap, gather_swap⟩
  | trans _ _ ih ih' => exact ih.trans ih'

theorem width_le_of_gather : ∀ {as : List α} {flat result : Assignment},
    gather f as flat = .ok result → flat.width ≤ result.width
  | [], _, _, h => by
    cases h
    exact Nat.le_refl _
  | a :: rest, flat, result, h => by
    obtain ⟨found, -, both, joins, h⟩ := gather_cons_eq_ok_iff.mp h
    have wider : flat.width ≤ both.width := by
      rw [width_of_union joins]
      exact Nat.le_max_left _ _
    exact Nat.le_trans wider (width_le_of_gather h)

/-- Gathering to what is there already is uniting it with what is gathered from nothing. -/
theorem gather_eq_ok_iff_union : ∀ {as : List α} {flat result : Assignment}, width ≤ flat.width →
    (gather f as flat = .ok result ↔
      ∃ found, gather f as (.blank width) = .ok found ∧ flat.union found = .ok result)
  | [], flat, result, fits => by
    have unit : flat.union (.blank width) = .ok flat :=
      union_unset (get?_blank width) (by rwa [width_blank])
    simp [gather, unit, eq_comm]
  | a :: rest, flat, result, fits => by
    have unit : flat.union (.blank width) = .ok flat :=
      union_unset (get?_blank width) (by rwa [width_blank])
    have fitsUnion : ∀ {b c d : Assignment}, width ≤ b.width → b.union c = .ok d →
        width ≤ d.width := by
      intro b c d fits joins
      rw [width_of_union joins]
      exact Nat.le_trans fits (Nat.le_max_left _ _)
    have fitsBlank : width ≤ (blank width).width := Nat.le_of_eq (width_blank width).symm
    simp only [gather_cons_eq_ok_iff]
    constructor
    · rintro ⟨x, yields, both, joins, h⟩
      obtain ⟨found, h, all⟩ := (gather_eq_ok_iff_union (fitsUnion fits joins)).mp h
      obtain ⟨start, first, grouped⟩ := union_assoc.mp ⟨flat, unit, joins⟩
      obtain ⟨total, second, whole⟩ := union_assoc.mp ⟨both, grouped, all⟩
      have later : gather f rest start = .ok total :=
        (gather_eq_ok_iff_union (fitsUnion fitsBlank first)).mpr ⟨found, h, second⟩
      exact ⟨total, ⟨x, yields, start, first, later⟩, whole⟩
    · rintro ⟨total, ⟨x, yields, start, first, h⟩, whole⟩
      obtain ⟨found, h, second⟩ := (gather_eq_ok_iff_union (fitsUnion fitsBlank first)).mp h
      obtain ⟨both, grouped, all⟩ := union_assoc.mpr ⟨total, second, whole⟩
      obtain ⟨flat', same, joins⟩ := union_assoc.mpr ⟨start, first, grouped⟩
      cases unit.symm.trans same
      have later : gather f rest both = .ok result :=
        (gather_eq_ok_iff_union (fitsUnion fits joins)).mpr ⟨found, h, all⟩
      exact ⟨x, yields, both, joins, later⟩

/-- Two lists are gathered together as each is apart, and what that yields is united. -/
theorem gather_append_eq_ok_iff {as bs : List α} {result : Assignment} :
    gather f (as ++ bs) (.blank width) = .ok result ↔
      ∃ x y, gather f as (.blank width) = .ok x ∧ gather f bs (.blank width) = .ok y ∧
        x.union y = .ok result := by
  have fits : ∀ {x : Assignment}, gather f as (.blank width) = .ok x → width ≤ x.width := by
    intro x h
    have := width_le_of_gather h
    rwa [width_blank] at this
  rw [gather_append, bind_eq_ok_iff]
  constructor
  · rintro ⟨x, first, h⟩
    obtain ⟨y, second, joins⟩ := (gather_eq_ok_iff_union (fits first)).mp h
    exact ⟨x, y, first, second, joins⟩
  · rintro ⟨x, y, first, second, joins⟩
    exact ⟨x, first, (gather_eq_ok_iff_union (fits first)).mpr ⟨y, second, joins⟩⟩

/-- Of members that can be gathered any part can. -/
theorem exists_gather_of_sublist {as bs : List α} (sub : as.Sublist bs)
    (h : ∃ result, gather f bs (.blank width) = .ok result) :
    ∃ result, gather f as (.blank width) = .ok result := by
  obtain ⟨result, h⟩ := h
  obtain ⟨others, perm⟩ := sub.exists_perm_append
  obtain ⟨x, -, first, -, -⟩ := gather_append_eq_ok_iff.mp ((gather_perm perm).mp h)
  exact ⟨x, first⟩

end Template
end ReversibleGrammar
