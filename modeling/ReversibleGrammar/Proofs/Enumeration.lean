/-
# Enumerations

A search lists what some objects give: its trees their values, say. It
enumerates them when its items are what the objects give, one item for each
object, in the order of the objects. Enumerations are composed like the searches
themselves: the pairs of an outer and an inner object are enumerated in
lexicographic order.

Key definitions: `Enumerates`.
Key theorems: `Enumerates.flatMap`, `Enumerates.choose`, `Enumerates.nodup`.
-/
import Mathlib.Data.List.Basic
import Mathlib.Tactic.Choose

namespace ReversibleGrammar

variable {τ σ ω α β : Type}

/-- The items are what the objects give, one item for each object and what it
gives, in the order of the objects. -/
def Enumerates (before : τ → τ → Prop) (gives : τ → α → Prop) (items : List α) : Prop :=
  ∃ listed : List (τ × α), listed.map Prod.snd = items ∧
    listed.Pairwise (fun p q => before p.1 q.1) ∧ ∀ t a, (t, a) ∈ listed ↔ gives t a

namespace Enumerates

variable {before : τ → τ → Prop} {gives : τ → α → Prop} {items : List α}

/-- The items are just what some object gives. -/
theorem mem_iff (h : Enumerates before gives items) {a : α} : a ∈ items ↔ ∃ t, gives t a := by
  obtain ⟨listed, rfl, -, mem⟩ := h
  rw [List.mem_map]
  constructor
  · rintro ⟨⟨t, _⟩, member, rfl⟩
    exact ⟨t, (mem _ _).mp member⟩
  · rintro ⟨t, given⟩
    exact ⟨(t, a), (mem _ _).mpr given, rfl⟩

/-- Where no object comes before itself, none is listed twice. -/
theorem nodup (h : Enumerates before gives items) (irrefl : ∀ t, ¬ before t t) :
    ∃ listed : List (τ × α), listed.map Prod.snd = items ∧ (listed.map Prod.fst).Nodup ∧
      listed.Pairwise (fun p q => before p.1 q.1) ∧ ∀ t a, (t, a) ∈ listed ↔ gives t a := by
  obtain ⟨listed, values, ordered, mem⟩ := h
  refine ⟨listed, values, List.pairwise_map.mpr (ordered.imp fun h same => ?_), ordered, mem⟩
  rw [same] at h
  exact irrefl _ h

/-- One object that gives one item. -/
theorem single {t : τ} {a : α} (only : ∀ u b, gives u b ↔ u = t ∧ b = a) :
    Enumerates before gives [a] :=
  ⟨[(t, a)], rfl, List.pairwise_singleton _ _, fun u b => by simp [only]⟩

/-- No object that gives anything. -/
theorem nil (none : ∀ t a, ¬ gives t a) : Enumerates before gives [] :=
  ⟨[], rfl, .nil, fun t a => by simp [none]⟩

/-- The members of a list, each given by its position. -/
theorem positions (as : List α) : Enumerates (· < ·) (fun (i : Nat) a => as[i]? = some a) as := by
  refine ⟨as.zipIdx.map fun p => (p.2, p.1), by simp [Function.comp_def], ?_, fun i a => ?_⟩
  · have ascending : (as.zipIdx.map Prod.snd).Pairwise (· < ·) := by
      rw [List.zipIdx_map_snd]
      exact List.pairwise_lt_range'
    exact List.pairwise_map.mpr (List.pairwise_map.mp ascending)
  · rw [List.mem_map]
    constructor
    · rintro ⟨⟨b, j⟩, mem, same⟩
      cases same
      exact List.mk_mem_zipIdx_iff_getElem?.mp mem
    · intro found
      exact ⟨(a, i), List.mk_mem_zipIdx_iff_getElem?.mpr found, rfl⟩

/-- For each item those of an inner enumeration: pairs of objects, ordered by the
outer object and then by the inner one. -/
theorem flatMap {before' : σ → σ → Prop} {gives' : α → σ → β → Prop} {before'' : ω → ω → Prop}
    {gives'' : ω → β → Prop} {f : α → List β} (outer : Enumerates before gives items)
    (inner : ∀ a ∈ items, Enumerates before' (gives' a) (f a)) (pair : τ → σ → ω)
    (byOuter : ∀ {t u s r}, before t u → before'' (pair t s) (pair u r))
    (byInner : ∀ {t s r}, before' s r → before'' (pair t s) (pair t r))
    (iff : ∀ {o b}, gives'' o b ↔ ∃ t a s, pair t s = o ∧ gives t a ∧ gives' a s b) :
    Enumerates before'' gives'' (items.flatMap f) := by
  obtain ⟨listed, rfl, ordered, mem⟩ := outer
  simp only [Enumerates] at inner
  choose! part values ordered' mem' using inner
  have itemOf : ∀ p ∈ listed, p.2 ∈ listed.map Prod.snd := fun p h => List.mem_map_of_mem h
  refine ⟨listed.flatMap fun p => (part p.2).map fun q => (pair p.1 q.1, q.2), ?_, ?_, ?_⟩
  · rw [List.map_flatMap, List.flatMap_map]
    refine List.flatMap_congr fun p h => ?_
    rw [List.map_map, ← values p.2 (itemOf p h)]
    rfl
  · refine List.pairwise_flatMap.mpr ⟨fun p h => ?_, ordered.imp fun earlier x hx y hy => ?_⟩
    · exact List.pairwise_map.mpr ((ordered' p.2 (itemOf p h)).imp byInner)
    · obtain ⟨q, -, rfl⟩ := List.mem_map.mp hx
      obtain ⟨r, -, rfl⟩ := List.mem_map.mp hy
      exact byOuter earlier
  · intro o b
    rw [iff, List.mem_flatMap]
    constructor
    · rintro ⟨⟨t, a⟩, h, there⟩
      obtain ⟨⟨s, b'⟩, h', same⟩ := List.mem_map.mp there
      cases same
      exact ⟨t, a, s, rfl, (mem _ _).mp h, (mem' a (itemOf _ h) _ _).mp h'⟩
    · rintro ⟨t, a, s, rfl, given, given'⟩
      have h := (mem _ _).mpr given
      exact ⟨(t, a), h, List.mem_map.mpr ⟨(s, b), (mem' a (itemOf _ h) _ _).mpr given', rfl⟩⟩

/-- For each item one item or none: the objects whose item yields one, under other names. -/
theorem choose {before'' : ω → ω → Prop} {gives'' : ω → β → Prop} {f : α → List β}
    (h : Enumerates before gives items) (yields : α → Option β)
    (atMostOne : ∀ a ∈ items, f a = (yields a).toList)
    (name : τ → ω) (mono : ∀ {t u}, before t u → before'' (name t) (name u))
    (iff : ∀ {o b}, gives'' o b ↔ ∃ t a, name t = o ∧ gives t a ∧ yields a = some b) :
    Enumerates before'' gives'' (items.flatMap f) := by
  have inner : ∀ a ∈ items,
      Enumerates (fun _ _ : Unit => False) (fun _ b => yields a = some b) (f a) := by
    intro a member
    rw [atMostOne a member]
    cases yields a with
    | none => exact .nil fun _ _ => nofun
    | some b => exact .single (t := ()) fun _ c => by simp [eq_comm]
  refine h.flatMap inner (fun t _ => name t) mono False.elim fun {o b} => ?_
  rw [iff]
  simp

/-- The items under a function, and the objects under other names. -/
theorem map {before'' : ω → ω → Prop} {gives'' : ω → β → Prop} (h : Enumerates before gives items)
    (f : α → β) (name : τ → ω) (mono : ∀ {t u}, before t u → before'' (name t) (name u))
    (iff : ∀ {o b}, gives'' o b ↔ ∃ t a, name t = o ∧ gives t a ∧ f a = b) :
    Enumerates before'' gives'' (items.map f) := by
  rw [List.map_eq_flatMap]
  refine h.choose (fun a => some (f a)) (fun _ _ => rfl) name mono fun {o b} => ?_
  rw [iff]
  simp only [Option.some.injEq]

end Enumerates

end ReversibleGrammar
