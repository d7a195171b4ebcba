/-
# Building what was taken apart

A template takes a fragment apart, and it builds a value from children. The fragment
describes the value exactly when the assignment holds of the children, up to any
tolerance. This is asked of regular templates only: several tails of one list are all
given the same items, and among several fields of one name a partial record is taken
apart by the first while the last is built. If a whole value was taken apart, any template
does build one from children of which the assignment holds, and from a list it builds one
that is no shorter.

Key definitions: `Template.Agrees`, `Template.NoShorter`, `Template.Rebuilds`.
Key theorems: `Template.holds_iff_describes`, `Template.exists_build`,
`Template.build_undoes_decompose`.
-/
import ReversibleGrammar.Proofs.Assignment.Holding
import ReversibleGrammar.Proofs.Template.Building
import ReversibleGrammar.Proofs.Template.Gathering
import ReversibleGrammar.Proofs.Value.Tolerance

namespace ReversibleGrammar
namespace Template

variable {R : Value → Value → Prop} {children : List Value} {width : Nat}

theorem holds_of_gather_iff {α : Type} {f : α → Except Obstacle Assignment} {as : List α}
    {flat : Assignment} (h : gather f as (.blank width) = .ok flat) :
    flat.Holds R children ↔ ∀ a ∈ as, ∃ found, f a = .ok found ∧ found.Holds R children := by
  rw [gather_iff (fun joins => Assignment.holds_of_union_iff joins) h]
  exact and_iff_right (Assignment.holds_blank width)

/-- A tolerance of two lists is one of their fronts and one of their rests. -/
theorem forall₂_append_iff {front rest items others : List Value}
    (sameLength : front.length = items.length) :
    List.Forall₂ R (front ++ rest) (items ++ others) ↔
      List.Forall₂ R front items ∧ List.Forall₂ R rest others := by
  induction front generalizing items with
  | nil =>
    obtain rfl := List.length_eq_zero_iff.mp sameLength.symm
    simp
  | cons v front ih =>
    cases items with
    | nil => cases sameLength
    | cons w items => simp [ih (Nat.succ.inj sameLength), and_assoc]

/-! ### What the parts of a template agree on -/

/-- The template takes values apart to what holds of the children exactly when what
it builds from them is the value. -/
def Agrees (R : Value → Value → Prop) (children : List Value) (width : Nat) (t : Template) : Prop :=
  ∀ {fragment : Fragment} {flat : Assignment} {built : Value},
    t.decompose width fragment = .ok flat → t.build children = .ok built →
      (flat.Holds R children ↔ fragment.Describes R built)

theorem holds_of_field_iff (tolerance : Value.Tolerance R) {tag : String} {fields : List Field}
    (agree : ∀ name t, .computed name t ∈ fields → Agrees R children width t)
    {field : Field} (mem : field ∈ fields) {v built : Value} {found : Assignment}
    (yields : decomposeField width tag field v = .ok found)
    (builds : buildField children field = .ok built) : found.Holds R children ↔ R v built := by
  cases field with
  | computed name t =>
    rw [decomposeField] at yields
    rw [buildField] at builds
    exact agree name t mem yields builds
  | fixed name expected =>
    obtain ⟨rfl, rfl⟩ := decomposeField_fixed_eq_ok_iff.mp yields
    rw [buildField] at builds
    cases builds
    exact iff_of_true (Assignment.holds_blank width) (tolerance.refl _)

theorem holds_of_heads_iff : ∀ {heads : List Template} {front items : List Value},
    (∀ t ∈ heads, Agrees R children width t) → front.length = heads.length →
      List.Forall₂ (fun t v => t.build children = .ok v) heads items →
        (∀ share ∈ heads.zip front, ∃ found, share.1.decompose width (.value share.2) = .ok found) →
          ((∀ share ∈ heads.zip front, ∃ found, share.1.decompose width (.value share.2) = .ok found ∧
            found.Holds R children) ↔ List.Forall₂ R front items)
  | [], [], _, _, _, .nil, _ => by simp
  | head :: heads, v :: front, _, agree, sameLength, .cons builds each, yields => by
    obtain ⟨agreeHead, agree⟩ := List.forall_mem_cons.mp agree
    obtain ⟨⟨found, first⟩, yields⟩ := List.forall_mem_cons.mp yields
    rw [List.zip_cons_cons, List.forall_mem_cons, List.forall₂_cons,
      holds_of_heads_iff agree (Nat.succ.inj sameLength) each yields]
    refine and_congr_left fun _ => ?_
    have headIff : found.Holds R children ↔ R v _ := agreeHead first builds
    rw [← headIff]
    simp [first]

theorem agrees_of_slot {index : Nat} {attr : Option String} :
    Agrees R children width (slot index attr) := by
  intro fragment flat built apart builds
  rw [build] at builds
  cases attr with
  | none =>
    rw [decompose_bare_eq_ok_iff] at apart
    rw [pick_none_eq_ok_iff] at builds
    rw [Assignment.holds_of_single_iff apart, builds]
    simp
  | some attr =>
    obtain ⟨v, rfl, placed⟩ := decompose_attribute_eq_ok_iff.mp apart
    obtain ⟨child, isChild, field⟩ := pick_some_eq_ok_iff.mp builds
    rw [Assignment.holds_of_single_iff placed, isChild]
    simp only [Option.some.injEq, exists_eq_left', Fragment.describes_single_iff, field]
    rfl

/-- A partial record is taken apart by the fields that make its entries. -/
theorem holds_of_fields_iff (tolerance : Value.Tolerance R) {tag : String} {fields : List Field}
    (agree : ∀ name t, .computed name t ∈ fields → Agrees R children width t)
    {part : PartialRecord} {made : FieldMap Value} (isMade : Made children fields made)
    {flat : Assignment} (apart : (record tag fields).decompose width (.fields part) = .ok flat) :
    flat.Holds R children ↔ (Fragment.fields part).Describes R (.record tag made) := by
  rw [decompose_record_fields] at apart
  rw [holds_of_gather_iff apart]
  have entry_iff : ∀ key v, (key, v) ∈ part.toList →
      ((∃ found, decomposeNamed width tag fields key v = .ok found ∧ found.Holds R children) ↔
        ∃ held, made.get? key = some held ∧ R v held) := by
    intro key v mem
    obtain ⟨found, yields⟩ := exists_of_gather apart (key, v) mem
    obtain ⟨field, there, rfl, yieldsField⟩ := exists_of_decomposeNamed yields
    obtain ⟨value, buildsField, isField⟩ := isMade.each field there
    have fieldIff := holds_of_field_iff tolerance agree there yieldsField buildsField
    simp only [yields, isField, Except.ok.injEq, exists_eq_left', Option.some.injEq]
    exact fieldIff
  refine ⟨fun holds key v found => ?_, fun described (key, v) mem => ?_⟩
  · have mem := (FieldChain.mem_toList part).mpr found
    exact (entry_iff key v mem).mp (holds (key, v) mem)
  · have found := (FieldChain.mem_toList part).mp mem
    exact (entry_iff key v mem).mpr (described key v found)

/-- A record that was taken apart has just the fields of the template, so it is what
the fields make if each of its fields is. -/
theorem holds_of_record_iff (tolerance : Value.Tolerance R) {tag : String} {fields : List Field}
    (distinct : (fields.map Field.name).Nodup)
    (agree : ∀ name t, .computed name t ∈ fields → Agrees R children width t)
    {v : Value} {made : FieldMap Value} (isMade : Made children fields made)
    {flat : Assignment} (apart : (record tag fields).decompose width (.value v) = .ok flat) :
    flat.Holds R children ↔ R v (.record tag made) := by
  obtain ⟨held, rfl, sameSize, apart⟩ := decompose_record_eq_ok_iff.mp apart
  rw [holds_of_gather_iff apart, tolerance.record_iff]
  have has : ∀ name ∈ fields.map Field.name, ∃ value, held.get? name = some value := by
    intro name mem
    obtain ⟨field, there, rfl⟩ := List.mem_map.mp mem
    obtain ⟨found, yields⟩ := exists_of_gather apart field there
    obtain ⟨value, isHeld, -⟩ := decomposeHeld_eq_ok_iff.mp yields
    exact ⟨value, isHeld⟩
  -- All names of the template are held, and no more than there are names.
  have only := (FieldChain.size_eq_length_iff distinct has).mp (by rw [sameSize, List.length_map])
  have field_iff : ∀ field ∈ fields,
      ((∃ found, decomposeHeld width tag held field = .ok found ∧ found.Holds R children) ↔
        Option.Rel R (held.get? field.name) (made.get? field.name)) := by
    intro field there
    obtain ⟨found, yields⟩ := exists_of_gather apart field there
    obtain ⟨value, isHeld, yieldsField⟩ := decomposeHeld_eq_ok_iff.mp yields
    obtain ⟨value', buildsField, isField⟩ := isMade.each field there
    have fieldIff := holds_of_field_iff tolerance agree there yieldsField buildsField
    rw [isHeld, isField, Option.rel_some_some, ← fieldIff]
    simp [yields]
  refine ⟨fun holds => ⟨made, rfl, fun key => ?_⟩, fun ⟨made', same, rel⟩ field there => ?_⟩
  · by_cases mem : key ∈ fields.map Field.name
    · obtain ⟨field, there, rfl⟩ := List.mem_map.mp mem
      exact (field_iff field there).mp (holds field there)
    · have noHeld : held.get? key = none :=
        Option.eq_none_iff_forall_ne_some.mpr fun value isHeld => mem (only key value isHeld)
      have noMade : made.get? key = none :=
        Option.eq_none_iff_forall_ne_some.mpr fun value found => mem (isMade.only key value found)
      rw [noHeld, noMade]
      exact .none
  · cases same
    exact (field_iff field there).mpr (rel field.name)

/-- The items of a list are what its heads and tails build if the front is what the
heads build and the rest what the only tail does. -/
theorem holds_of_list_iff (tolerance : Value.Tolerance R) {heads tails : List Template}
    (oneTail : tails.length ≤ 1) (agreeHeads : ∀ t ∈ heads, Agrees R children width t)
    (agreeTails : ∀ t ∈ tails, Agrees R children width t) :
    Agrees R children width (list heads tails) := by
  intro fragment flat built apart builds
  obtain ⟨front, rest, rfl, sameLength, left, apart⟩ := decompose_list_eq_ok_iff.mp apart
  obtain ⟨items, lists, rfl, eachHead, eachTail⟩ := build_list_eq_ok_iff.mp builds
  have yields := exists_of_gather apart
  rw [shares, List.forall_mem_append] at yields
  have restIff : (∀ share ∈ tails.map fun tail => (tail, Value.list rest),
      ∃ found, share.1.decompose width (.value share.2) = .ok found ∧ found.Holds R children) ↔
        List.Forall₂ R rest lists.flatten := by
    rcases forall₂_of_oneTail oneTail eachTail with ⟨rfl, rfl⟩ | ⟨tail, l, rfl, rfl, buildsTail⟩
    · simp [left.mp rfl]
    · obtain ⟨found, yieldsTail⟩ := yields.2 _ (List.mem_singleton_self _)
      have tailIff : found.Holds R children ↔ R (.list rest) (.list l) :=
        agreeTails tail (List.mem_singleton_self _) yieldsTail buildsTail
      rw [tolerance.list_iff] at tailIff
      simpa [yieldsTail] using tailIff
  rw [holds_of_gather_iff apart, shares, List.forall_mem_append, restIff,
    holds_of_heads_iff agreeHeads sameLength eachHead yields.1, Fragment.Describes,
    tolerance.list_iff]
  have itemsLength : front.length = items.length := by rw [sameLength, eachHead.length_eq]
  simp [forall₂_append_iff itemsLength]

/-! ### Agreement -/

/-- What a regular template takes a fragment apart to holds of the children exactly
when the fragment describes what the template builds from them. -/
theorem holds_iff_describes (tolerance : Value.Tolerance R) {t : Template} (regular : Regular t) :
    Agrees R children width t := by
  induction t using partInduction with
  | empty =>
    intro fragment flat built apart builds
    obtain ⟨rfl, rfl⟩ := decompose_empty_eq_ok_iff.mp apart
    rw [build] at builds
    cases builds
    exact iff_of_true (Assignment.holds_blank width) (tolerance.refl _)
  | slot index attr => exact agrees_of_slot
  | record tag fields ih =>
    have agree : ∀ name t, .computed name t ∈ fields → Agrees R children width t := by
      intro name t mem
      exact ih name t mem (regular.of_subset (parts_subset_record mem))
    intro fragment flat built apart builds
    obtain ⟨made, rfl, isMade⟩ := (build_record_eq_ok_iff regular.names_nodup).mp builds
    cases fragment with
    | fields part => exact holds_of_fields_iff tolerance agree isMade apart
    | value v => exact holds_of_record_iff tolerance regular.names_nodup agree isMade apart
  | list heads tails ihHeads ihTails =>
    refine holds_of_list_iff tolerance regular.length_tails_le (fun t mem => ?_) (fun t mem => ?_)
    · exact ihHeads t mem (regular.of_subset (parts_subset_heads mem))
    · exact ihTails t mem (regular.of_subset (parts_subset_tails mem))

/-! ### What is built of what was taken apart -/

/-- The second value is a list that is no shorter, if the first one is a list. -/
def NoShorter (v built : Value) : Prop :=
  ∀ items, v = .list items → ∃ l, built = .list l ∧ items.length ≤ l.length

theorem noShorter_of_eq {v built : Value} (h : v = built) : NoShorter v built := by
  subst h
  exact fun items same => ⟨items, same, Nat.le_refl _⟩

theorem noShorter_of_tolerance (tolerance : Value.Tolerance R) {v built : Value} (h : R v built) :
    NoShorter v built := by
  rintro items rfl
  obtain ⟨l, rfl, each⟩ := tolerance.list_iff.mp h
  exact ⟨l, rfl, Nat.le_of_eq each.length_eq⟩

/-- What the template takes a value apart to lets it build one from the children, and no
shorter list from a list. -/
def Rebuilds (R : Value → Value → Prop) (children : List Value) (width : Nat) (t : Template) :
    Prop :=
  ∀ {v : Value} {flat : Assignment}, t.decompose width (.value v) = .ok flat →
    flat.Holds R children → ∃ built, t.build children = .ok built ∧ NoShorter v built

theorem rebuilds_of_slot (noShorter : ∀ {v w}, R v w → NoShorter v w) {index : Nat}
    {attr : Option String} :
    Rebuilds R children width (slot index attr) := by
  intro v flat apart holds
  rw [build]
  cases attr with
  | none =>
    rw [decompose_bare_eq_ok_iff] at apart
    obtain ⟨child, isChild, described⟩ := (Assignment.holds_of_single_iff apart).mp holds
    exact ⟨child, pick_none_eq_ok_iff.mpr isChild, noShorter described⟩
  | some attr =>
    obtain ⟨w, same, placed⟩ := decompose_attribute_eq_ok_iff.mp apart
    cases same
    obtain ⟨child, isChild, described⟩ := (Assignment.holds_of_single_iff placed).mp holds
    obtain ⟨held, field, close⟩ := Fragment.describes_single_iff.mp described
    exact ⟨held, pick_some_eq_ok_iff.mpr ⟨child, isChild, field⟩, noShorter close⟩

theorem le_length_flatten {S : Template → List Value → Prop} {n : Nat} {tails : List Template}
    {lists : List (List Value)} (each : List.Forall₂ (fun t l => S t l ∧ n ≤ l.length) tails lists) :
    tails.length * n ≤ lists.flatten.length := by
  induction each with
  | nil => simp
  | cons first _ ih =>
    rw [List.length_cons, Nat.succ_mul, List.flatten_cons, List.length_append]
    have := first.2
    omega

/-- A list is built with an item for each head, and with as many items for each tail as the
rest has that the tails were given. -/
theorem exists_build_list {heads tails : List Template}
    (ihHeads : ∀ t ∈ heads, Rebuilds R children width t)
    (ihTails : ∀ t ∈ tails, Rebuilds R children width t) {front rest : List Value}
    {flat : Assignment} (sameLength : front.length = heads.length)
    (apart : gather (fun share => share.1.decompose width (.value share.2))
      (shares heads tails front rest) (.blank width) = .ok flat) (holds : flat.Holds R children) :
    ∃ l, (list heads tails).build children = .ok (.list l) ∧
      heads.length + tails.length * rest.length ≤ l.length := by
  rw [holds_of_gather_iff apart, shares, List.forall_mem_append] at holds
  have buildsHead : ∀ t ∈ heads, ∃ value, t.build children = .ok value := by
    intro t mem
    have isFirst : t ∈ (heads.zip front).map Prod.fst := by
      rwa [List.map_fst_zip (Nat.le_of_eq sameLength.symm)]
    obtain ⟨share, there, rfl⟩ := List.mem_map.mp isFirst
    obtain ⟨found, yields, holdsHead⟩ := holds.1 share there
    exact (ihHeads _ mem yields holdsHead).imp fun _ => And.left
  have buildsTail : ∀ t ∈ tails, ∃ l, t.build children = .ok (.list l) ∧
      rest.length ≤ l.length := by
    intro t mem
    obtain ⟨found, yields, holdsTail⟩ := holds.2 (t, .list rest) (List.mem_map_of_mem mem)
    obtain ⟨value, builds, noShorter⟩ := ihTails t mem yields holdsTail
    obtain ⟨l, rfl, long⟩ := noShorter rest rfl
    exact ⟨l, builds, long⟩
  obtain ⟨items, eachHead⟩ := exists_forall₂ buildsHead
  obtain ⟨lists, eachTail⟩ := exists_forall₂ buildsTail
  refine ⟨items ++ lists.flatten, ?_, ?_⟩
  · exact build_list_eq_ok_iff.mpr ⟨items, lists, rfl, eachHead, eachTail.imp fun _ _ => And.left⟩
  · rw [List.length_append, ← eachHead.length_eq]
    exact Nat.add_le_add_left (le_length_flatten eachTail) _

/-- A template that took a whole value apart builds one from any children of which the
assignment holds, whether it is regular or not, and up to any relation that has no list
become a shorter one. -/
theorem exists_build (noShorter : ∀ {v w}, R v w → NoShorter v w) (t : Template) :
    Rebuilds R children width t := by
  induction t using partInduction with
  | empty =>
    intro v flat apart _
    obtain ⟨same, -⟩ := decompose_empty_eq_ok_iff.mp apart
    cases same
    exact ⟨.null, by rw [build], noShorter_of_eq rfl⟩
  | slot index attr => exact rebuilds_of_slot noShorter
  | record tag fields ih =>
    intro v flat apart holds
    obtain ⟨held, rfl, -, apart⟩ := decompose_record_eq_ok_iff.mp apart
    rw [holds_of_gather_iff apart] at holds
    have builds : ∀ field ∈ fields, ∃ value, buildField children field = .ok value := by
      intro field mem
      obtain ⟨found, yields, holdsField⟩ := holds field mem
      obtain ⟨value, -, yields⟩ := decomposeHeld_eq_ok_iff.mp yields
      cases field with
      | computed name t =>
        rw [decomposeField] at yields
        rw [buildField]
        exact (ih name t mem yields holdsField).imp fun _ => And.left
      | fixed name value => exact ⟨value, by rw [buildField]⟩
    obtain ⟨made, h⟩ := exists_buildFields FieldMap.empty builds
    exact ⟨.record tag made, by rw [build, h]; rfl, by simp [NoShorter]⟩
  | list heads tails ihHeads ihTails =>
    intro v flat apart holds
    obtain ⟨front, rest, same, sameLength, left, gathered⟩ := decompose_list_eq_ok_iff.mp apart
    cases same
    obtain ⟨l, builds, long⟩ := exists_build_list ihHeads ihTails sameLength gathered holds
    refine ⟨.list l, builds, ?_⟩
    rintro items same
    cases same
    refine ⟨l, rfl, ?_⟩
    rw [List.length_append, sameLength]
    refine Nat.le_trans (Nat.add_le_add_left ?_ _) long
    cases tails with
    | nil => simp [left.mp rfl]
    | cons tail others => exact Nat.le_mul_of_pos_left _ (Nat.succ_pos _)

/-- **Building undoes taking apart.** Of what a value was taken apart to, a regular template
builds the value again: the children that build it are exactly those of which the assignment
holds, whatever stands at the positions that are unset. -/
theorem build_undoes_decompose {t : Template} (regular : Regular t) {v : Value} {flat : Assignment}
    (apart : t.decompose width (.value v) = .ok flat) :
    t.build children = .ok v ↔ flat.Holds Eq children := by
  constructor
  · intro builds
    exact (holds_iff_describes Value.tolerance_eq regular apart builds).mpr rfl
  · intro holds
    obtain ⟨built, builds, -⟩ := exists_build noShorter_of_eq t apart holds
    have same : v = built := (holds_iff_describes Value.tolerance_eq regular apart builds).mp holds
    rw [same, builds]

/-- Of the three children the first has more fields than are asked for, the second stands for
a head of a list and the third for its tail. -/
theorem build_undoes_decompose_nested :
    let t := record "S" [.computed "k" (slot 0 (some "k")),
      .computed "l" (list [slot 1 none] [slot 2 none]), .fixed "m" (.str "x")]
    let v := Value.record "S" (FieldMap.ofList
      [("k", .str "a"), ("l", .list [.null, .str "b", .null]), ("m", .str "x")])
    let flat : Assignment := ⟨[some (.fields (FieldMap.single "k" (.str "a"))),
      some (.value .null), some (.value (.list [.str "b", .null]))]⟩
    let children := [Value.record "T" (FieldMap.ofList [("j", .null), ("k", .str "a")]),
      .null, .list [.str "b", .null]]
    Regular t ∧ t.decompose 3 (.value v) = .ok flat ∧ flat.Holds Eq children ∧
      t.build children = .ok v := by
  intro t v flat children
  have regular : Regular t := by decide
  have apart : t.decompose 3 (.value v) = .ok flat := by rfl
  have holds : flat.Holds Eq children := by
    simp only [flat, children, Assignment.holds_cons_iff, Option.some.injEq, forall_eq',
      Fragment.describes_single_iff]
    exact ⟨⟨_, rfl, rfl⟩, rfl, rfl, Assignment.holds_blank 0⟩
  exact ⟨regular, apart, holds, (build_undoes_decompose regular apart).mpr holds⟩

end Template
end ReversibleGrammar
