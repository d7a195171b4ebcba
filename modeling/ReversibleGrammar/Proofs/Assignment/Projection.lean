/-
# Assignments that project children

Slots name children of a rule, whole or by attribute, and so ask something of each
position: nothing, the child that stands there, or those attributes of it that are named.
Slots are separate if no child is named both whole and by attribute, and no attribute of
it twice; a child may be named whole several times. The assignments that separate slots
ask for can be united, and the union is what all the slots ask for together.

Key definitions: `Separate`, `Assignment.Asked`, `Assignment.Projects`.
Key theorems: `Assignment.Asked.exists_whole`, `Assignment.Asked.exists_attributes`,
`Assignment.exists_merges_of_asked`, `Assignment.exists_union_of_projects`.
-/
import Mathlib.Data.List.Nodup
import ReversibleGrammar.Proofs.Assignment.Laws

namespace ReversibleGrammar

/-- No child is named both whole and by attribute, and no attribute of it is named twice. -/
structure Separate (named : List (Nat × Option String)) : Prop where
  apart : ∀ slot ∈ named, slot.2 ≠ none → (slot.1, none) ∉ named
  once : (named.filter fun slot => slot.2.isSome).Nodup

instance (named : List (Nat × Option String)) : Decidable (Separate named) :=
  decidable_of_iff ((∀ slot ∈ named, slot.2 ≠ none → (slot.1, none) ∉ named) ∧
      (named.filter fun slot => slot.2.isSome).Nodup)
    ⟨fun h => ⟨h.1, h.2⟩, fun h => ⟨h.apart, h.once⟩⟩

variable {named others : List (Nat × Option String)}

theorem Separate.of_sublist (h : Separate others) (sub : named.Sublist others) : Separate named where
  apart slot mem byAttribute whole := h.apart slot (sub.subset mem) byAttribute (sub.subset whole)
  once := (sub.filter _).nodup h.once

/-- Two parts of separate slots name no attribute in common. -/
theorem Separate.disjoint (h : Separate (named ++ others)) {i : Nat} {attr : String}
    (mem : (i, some attr) ∈ named) : (i, some attr) ∉ others := by
  have once := h.once
  rw [List.filter_append] at once
  intro mem'
  exact List.disjoint_of_nodup_append once (List.mem_filter.mpr ⟨mem, rfl⟩)
    (List.mem_filter.mpr ⟨mem', rfl⟩)

namespace Assignment

variable {children : List Value}

/-- What slots ask of a position: nothing if they do not name it, else the child, or the
attributes of the child that they name. -/
inductive Asked (children : List Value) (named : List (Nat × Option String)) (i : Nat) :
    Option Fragment → Prop
  | nothing (unnamed : ∀ attr, (i, attr) ∉ named) : Asked children named i none
  | whole {child : Value} (mem : (i, none) ∈ named) (isChild : children[i]? = some child) :
      Asked children named i (some (.value child))
  | attributes {child : Value} {part : PartialRecord} {attr : String}
      (mem : (i, some attr) ∈ named) (isChild : children[i]? = some child)
      (carried : ∀ key, (i, some key) ∈ named → child.field? key ≠ none)
      (gives : ∀ key, part.get? key = if (i, some key) ∈ named then child.field? key else none) :
      Asked children named i (some (.fields part))

/-- Slots that name the same of a position ask the same of it. -/
theorem Asked.congr {i : Nat} {x : Option Fragment} (h : Asked children named i x)
    (same : ∀ attr, (i, attr) ∈ named ↔ (i, attr) ∈ others) : Asked children others i x := by
  cases h with
  | nothing unnamed => exact .nothing fun attr mem => unnamed attr ((same attr).mpr mem)
  | whole mem isChild => exact .whole ((same none).mp mem) isChild
  | attributes mem isChild carried gives =>
    refine .attributes ((same _).mp mem) isChild (fun key mem => ?_) fun key => ?_
    · exact carried key ((same _).mpr mem)
    · rw [gives key]
      simp only [same]

/-- What is named whole is asked for whole. -/
theorem Asked.exists_whole (separate : Separate named) {i : Nat} {x : Option Fragment}
    (h : Asked children named i x) (mem : (i, none) ∈ named) :
    ∃ child, children[i]? = some child ∧ x = some (.value child) := by
  cases h with
  | nothing unnamed => cases unnamed _ mem
  | whole _ isChild => exact ⟨_, isChild, rfl⟩
  | attributes mem' => cases separate.apart _ mem' (Option.some_ne_none _) mem

/-- Of what is named by attribute, just the attributes that are named are asked for. -/
theorem Asked.exists_attributes (separate : Separate named) {i : Nat} {x : Option Fragment}
    (h : Asked children named i x) {attr : String} (mem : (i, some attr) ∈ named) :
    ∃ child part, children[i]? = some child ∧ x = some (.fields part) ∧
      (∀ key, (i, some key) ∈ named → child.field? key ≠ none) ∧
      ∀ key, part.get? key = if (i, some key) ∈ named then child.field? key else none := by
  cases h with
  | nothing unnamed => cases unnamed _ mem
  | whole mem' => cases separate.apart _ mem (Option.some_ne_none _) mem'
  | attributes _ isChild carried gives => exact ⟨_, _, isChild, rfl, carried, gives⟩

/-- What two parts of separate slots ask of a position can be merged to what both ask of it. -/
theorem exists_merges_of_asked (separate : Separate (named ++ others)) {i : Nat}
    {x y : Option Fragment} (hx : Asked children named i x) (hy : Asked children others i y) :
    ∃ z, Merges x y z ∧ Asked children (named ++ others) i z := by
  cases hx with
  | nothing unnamed =>
    refine ⟨y, none_merges_iff.mpr rfl, hy.congr fun attr => ?_⟩
    simp [unnamed attr]
  | whole mem isChild =>
    cases hy with
    | nothing unnamed =>
      refine ⟨_, .kept, (Asked.whole mem isChild).congr fun attr => ?_⟩
      simp [unnamed attr]
    | whole _ isChild' =>
      cases isChild.symm.trans isChild'
      exact ⟨_, .joined (.same _), .whole (List.mem_append_left _ mem) isChild⟩
    | attributes mem' =>
      exact absurd (List.mem_append_left _ mem)
        (separate.apart _ (List.mem_append_right _ mem') (Option.some_ne_none _))
  | @attributes child part attr mem isChild carried gives =>
    cases hy with
    | nothing unnamed =>
      refine ⟨_, .kept, (Asked.attributes mem isChild carried gives).congr fun attr => ?_⟩
      simp [unnamed attr]
    | whole mem' =>
      exact absurd (List.mem_append_right _ mem')
        (separate.apart _ (List.mem_append_left _ mem) (Option.some_ne_none _))
    | @attributes _ part' attr' mem' isChild' carried' gives' =>
      cases isChild.symm.trans isChild'
      have disjoint : FieldMap.Disjoint part part' := by
        intro key
        by_cases here : (i, some key) ∈ named
        · exact .inr (by rw [gives' key, if_neg (separate.disjoint here)])
        · exact .inl (by rw [gives key, if_neg here])
      refine ⟨_, .joined (joins_fields_iff.mpr ⟨disjoint, rfl⟩),
        .attributes (List.mem_append_left _ mem) isChild (fun key both => ?_) fun key => ?_⟩
      · exact (List.mem_append.mp both).elim (carried key) (carried' key)
      · rw [FieldMap.get?_merge, gives key, gives' key]
        by_cases here : (i, some key) ∈ named
        · simp [here, separate.disjoint here]
        · simp [here]

/-- Each position holds what slots ask of it. -/
def Projects (children : List Value) (named : List (Nat × Option String)) (a : Assignment) : Prop :=
  ∀ i, Asked children named i (a.get? i)

theorem projects_blank (width : Nat) : (blank width).Projects children [] := by
  intro i
  rw [get?_blank]
  exact .nothing fun _ => List.not_mem_nil

theorem projects_of_single {width index : Nat} {attr : Option String} {fragment : Fragment}
    {a : Assignment} (h : single width index fragment = .ok a)
    (asked : Asked children [(index, attr)] index (some fragment)) :
    a.Projects children [(index, attr)] := by
  intro i
  rw [get?_of_single h]
  split
  · rename_i same
    rwa [← same]
  · rename_i other
    refine .nothing fun attr' mem => other ?_
    cases List.mem_singleton.mp mem
    rfl

theorem exists_union_of_projects (separate : Separate (named ++ others)) {a b : Assignment}
    (ha : a.Projects children named) (hb : b.Projects children others) :
    ∃ c, a.union b = .ok c ∧ c.Projects children (named ++ others) := by
  have each : ∀ i, ∃ z, Merges (a.get? i) (b.get? i) z ∧ Asked children (named ++ others) i z :=
    fun i => exists_merges_of_asked separate (ha i) (hb i)
  obtain ⟨c, union⟩ := exists_union_iff.mpr fun i => (each i).imp fun _ => And.left
  refine ⟨c, union, fun i => ?_⟩
  obtain ⟨z, merges, asked⟩ := each i
  rwa [(merges_of_union union i).unique merges]

end Assignment
end ReversibleGrammar
