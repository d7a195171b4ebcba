/-
# Lists with several tails

A list is built of what its heads build and of the lists of its tails, one after the other.
Taking one apart gives each tail all the items after those of the heads, and does not divide
them. So if a list has several tails, what it took apart never builds the same list again:
the children of which the assignment holds build each item of the rest as often as there
are tails, and there is always a rest.

Key theorems: `Template.eq_copies_of_build`, `Template.several_tails_repeat_the_rest`,
`Template.several_tails_not_undone`.
-/
import ReversibleGrammar.Proofs.Template.Agreement

namespace ReversibleGrammar
namespace Template

variable {children : List Value} {width : Nat} {heads tails : List Template}

/-- If the heads and tails agree on what they are given, each tail builds the whole rest. -/
theorem eq_copies_of_build (agreeHeads : ∀ t ∈ heads, Agrees Eq children width t)
    (agreeTails : ∀ t ∈ tails, Agrees Eq children width t) {front rest l : List Value}
    {flat : Assignment} (sameLength : front.length = heads.length)
    (apart : gather (fun share => share.1.decompose width (.value share.2))
      (shares heads tails front rest) (.blank width) = .ok flat) (holds : flat.Holds Eq children)
    (builds : (list heads tails).build children = .ok (.list l)) :
    l = front ++ (List.replicate tails.length rest).flatten := by
  obtain ⟨items, lists, same, eachHead, eachTail⟩ := build_list_eq_ok_iff.mp builds
  cases same
  have yields := exists_of_gather apart
  rw [shares, List.forall_mem_append] at yields
  rw [holds_of_gather_iff apart, shares, List.forall_mem_append] at holds
  have frontSame : front = items := by
    have each := (holds_of_heads_iff agreeHeads sameLength eachHead yields.1).mp holds.1
    rwa [List.forall₂_eq_eq_eq] at each
  have all : ∀ l ∈ lists, l = rest := by
    intro l mem
    obtain ⟨tail, there, buildsTail⟩ := exists_mem_of_forall₂ eachTail mem
    obtain ⟨found, yieldsTail, holdsTail⟩ := holds.2 (tail, .list rest) (List.mem_map_of_mem there)
    have same : Value.list rest = .list l := (agreeTails tail there yieldsTail buildsTail).mp holdsTail
    cases same
    rfl
  rw [frontSame, List.eq_replicate_iff.mpr ⟨eachTail.length_eq.symm, all⟩]

/-- **Several tails repeat the rest.** Of what a list with several tails took apart, it builds
a list that is always longer: the items of the heads, and then those of the rest once for each
tail, if no list among the heads and tails has several tails itself. -/
theorem several_tails_repeat_the_rest (several : 2 ≤ tails.length) {items : List Value}
    {flat : Assignment} (apart : (list heads tails).decompose width (.value (.list items)) = .ok flat)
    (holds : flat.Holds Eq children) :
    ∃ front rest l, items = front ++ rest ∧ front.length = heads.length ∧ rest ≠ [] ∧
      (list heads tails).build children = .ok (.list l) ∧ items.length < l.length ∧
        ((∀ t ∈ heads ++ tails, Regular t) →
          l = front ++ (List.replicate tails.length rest).flatten) := by
  obtain ⟨front, rest, same, sameLength, left, gathered⟩ := decompose_list_eq_ok_iff.mp apart
  cases same
  obtain ⟨l, builds, long⟩ := exists_build_list (fun t _ => exists_build noShorter_of_eq t)
    (fun t _ => exists_build noShorter_of_eq t) sameLength gathered holds
  have someTail : tails ≠ [] := List.ne_nil_of_length_pos (by omega)
  have someRest : rest ≠ [] := fun nothing => someTail (left.mpr nothing)
  have longer : (front ++ rest).length < l.length := by
    have restLength := List.length_pos_iff.mpr someRest
    have twice : 2 * rest.length ≤ tails.length * rest.length := Nat.mul_le_mul_right _ several
    rw [List.length_append, sameLength]
    omega
  refine ⟨front, rest, l, rfl, sameLength, someRest, builds, longer, fun regular => ?_⟩
  obtain ⟨regularHeads, regularTails⟩ := List.forall_mem_append.mp regular
  exact eq_copies_of_build
    (fun t mem => holds_iff_describes Value.tolerance_eq (regularHeads t mem))
    (fun t mem => holds_iff_describes Value.tolerance_eq (regularTails t mem))
    sameLength gathered holds builds

/-- A head, a tail that is a child and a tail that is an attribute of another. -/
theorem several_tails_repeat_two_items :
    let t := list [slot 0 none] [slot 1 none, slot 2 (some "k")]
    let rest := [Value.str "a", .str "b"]
    let flat : Assignment := ⟨[some (.value .null), some (.value (.list rest)),
      some (.fields (FieldMap.single "k" (.list rest)))]⟩
    let children := [Value.null, .list rest, .record "T" (FieldMap.single "k" (.list rest))]
    t.decompose 3 (.value (.list (.null :: rest))) = .ok flat ∧ flat.Holds Eq children ∧
      t.build children = .ok (.list (.null :: (rest ++ rest))) := by
  intro t rest flat children
  have apart : t.decompose 3 (.value (.list (.null :: rest))) = .ok flat := by rfl
  have holds : flat.Holds Eq children := by
    simp only [flat, children, Assignment.holds_cons_iff, Option.some.injEq, forall_eq',
      Fragment.describes_single_iff]
    exact ⟨rfl, rfl, ⟨_, rfl, rfl⟩, Assignment.holds_blank 0⟩
  obtain ⟨front, others, l, same, sameLength, -, builds, -, copies⟩ :=
    several_tails_repeat_the_rest (by decide) apart holds
  obtain ⟨only, rfl⟩ := List.length_eq_one_iff.mp sameLength
  obtain ⟨rfl, rfl⟩ := List.cons.inj same
  rw [copies (by decide)] at builds
  exact ⟨apart, holds, builds⟩

/-- So several tails are not undone: with the tails `$0.conditions` and `$1` one item is
taken apart, and two are built. -/
theorem several_tails_not_undone :
    ¬ ∀ (heads tails : List Template) (items : List Value) (width : Nat) (flat : Assignment)
      (children : List Value), 2 ≤ tails.length → children.length = width →
      (list heads tails).decompose width (.value (.list items)) = .ok flat →
      flat.Holds Eq children → (list heads tails).build children = .ok (.list items) := by
  intro undone
  let one := Value.list [.str "a"]
  let flat : Assignment :=
    ⟨[some (.fields (FieldMap.single "conditions" one)), some (.value one)]⟩
  let children := [Value.record "S" (FieldMap.single "conditions" one), one]
  have holds : flat.Holds Eq children := by
    simp only [flat, children, Assignment.holds_cons_iff, Option.some.injEq, forall_eq',
      Fragment.describes_single_iff]
    exact ⟨⟨_, rfl, rfl⟩, rfl, Assignment.holds_blank 0⟩
  have builds := undone [] [slot 0 (some "conditions"), slot 1 none] [.str "a"] 2 flat children
    (by decide) rfl rfl holds
  have two : (list [] [slot 0 (some "conditions"), slot 1 none]).build children =
      .ok (.list [.str "a", .str "a"]) := by rfl
  cases two.symm.trans builds

end Template
end ReversibleGrammar
