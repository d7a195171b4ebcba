/-
# Gathering assignments

A record or a list is taken apart member by member: each yields an assignment of
its own, and these are joined one after the other. The recursions over the fields
of a template, over those of a partial record, and over the heads and the tails of
a list are all instances of one, which is named here, and the lemmas about it
serve all of them.

What holds of a gathered assignment exactly when it holds of all that were joined
needs only be shown of a union. That the width is that of the rule is the first
example. Where gathering fails, the members before some member have been gathered,
and that one has no result of its own, or it clashes with theirs.

Key definitions: `Template.gather`, `Template.shares`, `Template.Hereditary`.
Key theorems: `Template.gather_iff`, `Template.gather_eq_error_iff`,
`Template.decompose_record_cases`, `Template.decompose_list_cases`,
`Template.decompose_record_eq_ok_iff`, `Template.decompose_list_eq_ok_iff`,
`Template.of_decompose`, `Template.width_of_decompose`.
-/
import ReversibleGrammar.Proofs.Assignment.Union
import ReversibleGrammar.Proofs.Template.Parts
import ReversibleGrammar.Template.Decomposition

namespace ReversibleGrammar
namespace Template

variable {α : Type}

theorem joined_eq_ok_iff {a b c : Assignment} : joined a b = .ok c ↔ a.union b = .ok c :=
  mapError_eq_ok_iff

theorem joined_eq_error_iff {a b : Assignment} {obstacle : Obstacle} :
    joined a b = .error obstacle ↔ ∃ cause, a.union b = .error cause ∧ .fault cause = obstacle :=
  mapError_eq_error_iff

theorem placed_eq_ok_iff {width index : Nat} {fragment : Fragment} {a : Assignment} :
    placed width index fragment = .ok a ↔ Assignment.single width index fragment = .ok a :=
  mapError_eq_ok_iff

/-- Joins what each member of a list yields to what is there already. -/
def gather (f : α → Except Obstacle Assignment) : List α → Assignment → Except Obstacle Assignment
  | [], flat => .ok flat
  | a :: rest, flat => do
    let found ← f a
    let flat ← joined flat found
    gather f rest flat

theorem gather_append (f : α → Except Obstacle Assignment) (bs : List α) :
    ∀ (as : List α) (flat : Assignment),
      gather f (as ++ bs) flat = (gather f as flat >>= fun flat => gather f bs flat)
  | [], _ => rfl
  | a :: rest, flat => by
    rw [List.cons_append, gather, gather, bind_assoc]
    congr
    funext found
    rw [bind_assoc]
    congr
    funext flat
    exact gather_append f bs rest flat

theorem gather_cons_eq_ok_iff {f : α → Except Obstacle Assignment} {a : α} {rest : List α}
    {flat result : Assignment} : gather f (a :: rest) flat = .ok result ↔
      ∃ found, f a = .ok found ∧ ∃ both, flat.union found = .ok both ∧
        gather f rest both = .ok result := by
  simp only [gather, bind_eq_ok_iff, joined_eq_ok_iff]

/-- What holds of a union exactly when it holds of both parts, holds of a gathered
assignment exactly when it holds of all that were joined. -/
theorem gather_iff {P : Assignment → Prop} {f : α → Except Obstacle Assignment}
    (union : ∀ {a b c : Assignment}, a.union b = .ok c → (P c ↔ P a ∧ P b)) :
    ∀ {as : List α} {flat result : Assignment}, gather f as flat = .ok result →
      (P result ↔ P flat ∧ ∀ a ∈ as, ∃ found, f a = .ok found ∧ P found)
  | [], flat, result, h => by
    cases h
    simp
  | a :: rest, flat, result, h => by
    obtain ⟨found, yields, both, joins, h⟩ := gather_cons_eq_ok_iff.mp h
    rw [gather_iff union h, union joins, List.forall_mem_cons, and_assoc]
    simp [yields]

/-- What is closed under unions holds of a gathered assignment if it holds of all that
were joined. -/
theorem of_gather {P : Assignment → Prop} {f : α → Except Obstacle Assignment}
    (union : ∀ {a b c : Assignment}, a.union b = .ok c → P a → P b → P c) :
    ∀ {as : List α} {flat result : Assignment}, gather f as flat = .ok result → P flat →
      (∀ a ∈ as, ∀ found, f a = .ok found → P found) → P result
  | [], _, _, h, start, _ => by
    cases h
    exact start
  | a :: rest, _, _, h, start, each => by
    obtain ⟨found, yields, both, joins, h⟩ := gather_cons_eq_ok_iff.mp h
    obtain ⟨first, others⟩ := List.forall_mem_cons.mp each
    exact of_gather union h (union joins start (first found yields)) others

/-- Each member of what was gathered has yielded an assignment. -/
theorem exists_of_gather {f : α → Except Obstacle Assignment} {as : List α}
    {flat result : Assignment} (h : gather f as flat = .ok result) :
    ∀ a ∈ as, ∃ found, f a = .ok found := by
  have each := (gather_iff (P := fun _ => True) (fun _ => (and_self_iff).symm) h).mp trivial
  intro a member
  obtain ⟨found, yields, -⟩ := each.2 a member
  exact ⟨found, yields⟩

/-! ### The first obstacle -/

/-- Gathering fails at the first member that has no result, or whose result clashes with those
of the members before it. -/
theorem gather_eq_error_iff {f : α → Except Obstacle Assignment} {obstacle : Obstacle} :
    ∀ {as : List α} {flat : Assignment}, gather f as flat = .error obstacle ↔
      ∃ before a after held, as = before ++ a :: after ∧ gather f before flat = .ok held ∧
        (f a = .error obstacle ∨ ∃ found, f a = .ok found ∧ joined held found = .error obstacle)
  | [], flat => by simp [gather]
  | b :: rest, flat => by
    constructor
    · intro h
      rw [gather] at h
      rcases bind_eq_error_iff.mp h with here | ⟨found, yields, h⟩
      · exact ⟨[], b, rest, flat, rfl, rfl, .inl here⟩
      · rcases bind_eq_error_iff.mp h with clash | ⟨both, joins, h⟩
        · exact ⟨[], b, rest, flat, rfl, rfl, .inr ⟨found, yields, clash⟩⟩
        · obtain ⟨before, a, after, held, rfl, gathered, fails⟩ := gather_eq_error_iff.mp h
          refine ⟨b :: before, a, after, held, rfl, ?_, fails⟩
          exact gather_cons_eq_ok_iff.mpr ⟨found, yields, both, joined_eq_ok_iff.mp joins, gathered⟩
    · rintro ⟨before, a, after, held, same, gathered, fails⟩
      have step : gather f (a :: after) held = .error obstacle := by
        rw [gather]
        rcases fails with none | ⟨found, yields, clash⟩
        · exact bind_eq_error_iff.mpr (.inl none)
        · exact bind_eq_error_iff.mpr (.inr ⟨found, yields, bind_eq_error_iff.mpr (.inl clash)⟩)
      rw [same, gather_append, gathered]
      exact step

/-! ### Taking apart is gathering -/

attribute [local simp] decompose

/-- What a field of a template yields, given the fields of a record. -/
def decomposeHeld (width : Nat) (tag : String) (held : FieldMap Value) (field : Field) :
    Except Obstacle Assignment :=
  match held.get? field.name with
  | none => .error (.mismatch (.recordLacks (.record tag held) field.name))
  | some value => decomposeField width tag field value

theorem decomposeHeld_eq_ok_iff {width : Nat} {tag : String} {held : FieldMap Value} {field : Field}
    {found : Assignment} : decomposeHeld width tag held field = .ok found ↔
      ∃ value, held.get? field.name = some value ∧
        decomposeField width tag field value = .ok found := by
  unfold decomposeHeld
  cases held.get? field.name <;> simp

theorem decomposeField_fixed_eq_ok_iff {width : Nat} {tag name : String} {expected value : Value}
    {found : Assignment} : decomposeField width tag (.fixed name expected) value = .ok found ↔
      expected = value ∧ found = .blank width := by
  rw [decomposeField]
  by_cases same : expected = value
  · simp [same, eq_comm]
  · simp [same]

theorem decomposeFields_eq (width : Nat) (tag : String) (held : FieldMap Value) :
    ∀ (fields : List Field) (flat : Assignment),
      decomposeFields width tag held fields flat = gather (decomposeHeld width tag held) fields flat
  | [], _ => by rw [decomposeFields, gather]
  | field :: rest, flat => by
    rw [decomposeFields, gather, decomposeHeld]
    cases held.get? field.name with
    | none => rfl
    | some value => simp only [decomposeFields_eq width tag held rest]

/-- The templates of a list, each with what it is given: a head its item of the
front, and a tail all the rest. -/
def shares (heads tails : List Template) (front rest : List Value) : List (Template × Value) :=
  heads.zip front ++ tails.map fun tail => (tail, .list rest)

theorem decomposeHeads_eq (width : Nat) : ∀ (heads : List Template) (items : List Value)
    (flat : Assignment), decomposeHeads width heads items flat =
      gather (fun share => share.1.decompose width (.value share.2)) (heads.zip items) flat
  | [], _, _ => by rw [decomposeHeads, List.zip_nil_left, gather]; simp
  | _ :: _, [], _ => by rw [decomposeHeads, List.zip_nil_right, gather]; simp
  | head :: heads, item :: items, flat => by
    simp only [decomposeHeads, List.zip_cons_cons, gather, decomposeHeads_eq width heads items]

theorem decomposeTails_eq (width : Nat) (items : List Value) : ∀ (tails : List Template)
    (flat : Assignment), decomposeTails width tails items flat =
      gather (fun share => share.1.decompose width (.value share.2))
        (tails.map fun tail => (tail, .list items)) flat
  | [], _ => by rw [decomposeTails, List.map_nil, gather]
  | tail :: tails, flat => by
    simp only [decomposeTails, List.map_cons, gather, decomposeTails_eq width items tails]

theorem decompose_empty_eq_ok_iff {width : Nat} {fragment : Fragment} {flat : Assignment} :
    empty.decompose width fragment = .ok flat ↔ fragment = .value .null ∧ flat = .blank width := by
  rw [decompose]
  by_cases isNull : fragment = .value .null
  · simp [isNull, eq_comm]
  · simp [isNull]

theorem decompose_bare_eq_ok_iff {width index : Nat} {fragment : Fragment} {flat : Assignment} :
    (slot index none).decompose width fragment = .ok flat ↔
      Assignment.single width index fragment = .ok flat := by
  rw [decompose, placed_eq_ok_iff]

/-- Only a whole value goes to an attribute, as a partial record. -/
theorem decompose_attribute_eq_ok_iff {width index : Nat} {attr : String} {fragment : Fragment}
    {flat : Assignment} : (slot index (some attr)).decompose width fragment = .ok flat ↔
      ∃ v, fragment = .value v ∧
        Assignment.single width index (.fields (FieldMap.single attr v)) = .ok flat := by
  cases fragment with
  | value => simp [placed_eq_ok_iff]
  | fields => simp

theorem decompose_held (width : Nat) {tag : String} {fields : List Field} {held : FieldMap Value}
    (size : held.size = fields.length) :
    (record tag fields).decompose width (.value (.record tag held)) =
      gather (decomposeHeld width tag held) fields (.blank width) := by
  simp [size, decomposeFields_eq]

/-- A record template has a mismatch, or it is given a record with its tag and with as many
fields as its own. -/
theorem decompose_record_cases (width : Nat) (tag : String) (fields : List Field) (v : Value) :
    (∃ reason, (record tag fields).decompose width (.value v) = .error (.mismatch reason)) ∨
      ∃ held : FieldMap Value, v = .record tag held ∧ held.size = fields.length := by
  cases v with
  | record heldTag held =>
    by_cases sameTag : heldTag = tag
    · subst sameTag
      by_cases sameSize : held.size = fields.length
      · exact .inr ⟨held, rfl, sameSize⟩
      · exact .inl (by simp [sameSize])
    · exact .inl (by simp [sameTag])
  | _ => exact .inl (by simp)

/-- A record is taken apart by the fields of the template, which are as many as its own. -/
theorem decompose_record_eq_ok_iff {width : Nat} {tag : String} {fields : List Field} {v : Value}
    {flat : Assignment} : (record tag fields).decompose width (.value v) = .ok flat ↔
      ∃ held : FieldMap Value, v = .record tag held ∧ held.size = fields.length ∧
        gather (decomposeHeld width tag held) fields (.blank width) = .ok flat := by
  constructor
  · intro h
    rcases decompose_record_cases width tag fields v with ⟨reason, no⟩ | ⟨held, rfl, size⟩
    · rw [no] at h
      cases h
    · rw [decompose_held width size] at h
      exact ⟨held, rfl, size, h⟩
  · rintro ⟨held, rfl, size, h⟩
    rw [decompose_held width size, h]

/-- A partial record is taken apart by its own fields. -/
theorem decompose_record_fields (width : Nat) (tag : String) (fields : List Field)
    (part : PartialRecord) : (record tag fields).decompose width (.fields part) =
      gather (fun field => decomposeNamed width tag fields field.1 field.2) part.toList
        (.blank width) := by
  rw [decompose]
  generalize part.toList = held
  generalize Assignment.blank width = flat
  induction held generalizing flat with
  | nil => rfl
  | cons field rest ih =>
    rw [List.foldlM_cons, bind_assoc, gather]
    congr
    funext found
    congr
    funext flat
    exact ih flat

theorem exists_of_decomposeNamed {width : Nat} {tag name : String} {value : Value}
    {found : Assignment} : ∀ {fields : List Field},
      decomposeNamed width tag fields name value = .ok found →
        ∃ field ∈ fields, field.name = name ∧ decomposeField width tag field value = .ok found
  | [], h => by
    rw [decomposeNamed] at h
    cases h
  | field :: rest, h => by
    rw [decomposeNamed] at h
    split at h
    · rename_i here
      exact ⟨field, List.mem_cons_self, here, h⟩
    · obtain ⟨other, member, named, h⟩ := exists_of_decomposeNamed h
      exact ⟨other, List.mem_cons_of_mem _ member, named, h⟩

theorem lengthMismatch?_eq_none {heads tails items : Nat} :
    lengthMismatch? heads tails items = none ↔
      heads ≤ items ∧ (tails = 0 ↔ items = heads) := by
  unfold lengthMismatch?
  split
  · simp
    omega
  · split
    · simp
      omega
    · split
      · simp
        omega
      · simp
        omega

theorem decompose_items (width : Nat) {heads tails : List Template} {front rest : List Value}
    (each : front.length = heads.length) (left : tails = [] ↔ rest = []) :
    (list heads tails).decompose width (.value (.list (front ++ rest))) =
      gather (fun share => share.1.decompose width (.value share.2)) (shares heads tails front rest)
        (.blank width) := by
  have fits : lengthMismatch? heads.length tails.length (front ++ rest).length = none := by
    rw [lengthMismatch?_eq_none, List.length_append, each, List.length_eq_zero_iff, left,
      ← List.length_eq_zero_iff]
    omega
  have heads_zip : heads.zip (front ++ rest) = heads.zip front := by
    rw [← List.append_nil heads, List.zip_append (by rw [each]), List.zip_nil_left, List.append_nil,
      List.append_nil]
  rw [decompose, fits]
  simp only [shares, gather_append, decomposeHeads_eq, decomposeTails_eq, heads_zip, ← each,
    List.drop_left]

/-- A list template has a mismatch, or it is given a list with an item for each head, and a
rest for the tails, which is empty just if there are none. -/
theorem decompose_list_cases (width : Nat) (heads tails : List Template) (fragment : Fragment) :
    (∃ reason, (list heads tails).decompose width fragment = .error (.mismatch reason)) ∨
      ∃ front rest, fragment = .value (.list (front ++ rest)) ∧ front.length = heads.length ∧
        (tails = [] ↔ rest = []) := by
  cases fragment with
  | fields => exact .inl (by simp)
  | value v =>
    cases v with
    | list items =>
      cases fits : lengthMismatch? heads.length tails.length items.length with
      | some reason => exact .inl (by simp [fits])
      | none =>
        obtain ⟨enough, left⟩ := lengthMismatch?_eq_none.mp fits
        have each : (items.take heads.length).length = heads.length := by simp [enough]
        have left : tails = [] ↔ items.drop heads.length = [] := by
          rw [← List.length_eq_zero_iff, left, List.drop_eq_nil_iff]
          omega
        exact .inr ⟨_, _, by rw [List.take_append_drop], each, left⟩
    | _ => exact .inl (by simp)

/-- A list is taken apart into such a front and rest. -/
theorem decompose_list_eq_ok_iff {width : Nat} {heads tails : List Template} {fragment : Fragment}
    {flat : Assignment} : (list heads tails).decompose width fragment = .ok flat ↔
      ∃ front rest, fragment = .value (.list (front ++ rest)) ∧ front.length = heads.length ∧
        (tails = [] ↔ rest = []) ∧
        gather (fun share => share.1.decompose width (.value share.2))
          (shares heads tails front rest) (.blank width) = .ok flat := by
  constructor
  · intro h
    rcases decompose_list_cases width heads tails fragment with
      ⟨reason, no⟩ | ⟨front, rest, rfl, each, left⟩
    · rw [no] at h
      cases h
    · rw [decompose_items width each left] at h
      exact ⟨front, rest, rfl, each, left, h⟩
  · rintro ⟨front, rest, rfl, each, left, h⟩
    rw [decompose_items width each left, h]

theorem mem_shares {share : Template × Value} {heads tails : List Template}
    {front rest : List Value} (mem : share ∈ shares heads tails front rest) :
    share.1 ∈ heads ∨ share.1 ∈ tails := by
  rcases List.mem_append.mp mem with mem | mem
  · exact .inl (List.of_mem_zip mem).1
  · obtain ⟨tail, there, rfl⟩ := List.mem_map.mp mem
    exact .inr there

/-- Each head and each tail has a share. -/
theorem map_fst_shares {heads tails : List Template} {front rest : List Value}
    (sameLength : front.length = heads.length) :
    (shares heads tails front rest).map Prod.fst = heads ++ tails := by
  rw [shares, List.map_append, List.map_fst_zip (Nat.le_of_eq sameLength.symm), List.map_map]
  simp [Function.comp_def]

/-! ### What holds of every assignment -/

/-- What holds of a fragment holds of the values that a template takes it apart into: the
fields of a record and of a partial one, the items of a list and the list of its last items. -/
structure Hereditary (fits : Fragment → Prop) : Prop where
  field : ∀ {tag : String} {held : FieldMap Value} {name : String} {v : Value},
    fits (.value (.record tag held)) → held.get? name = some v → fits (.value v)
  entry : ∀ {part : PartialRecord} {name : String} {v : Value},
    fits (.fields part) → part.get? name = some v → fits (.value v)
  item : ∀ {items : List Value} {v : Value}, fits (.value (.list items)) → v ∈ items →
    fits (.value v)
  rest : ∀ {front rest : List Value}, fits (.value (.list (front ++ rest))) →
    fits (.value (.list rest))

theorem hereditary_of_whole {fits : Fragment → Prop} (whole : ∀ v, fits (.value v)) :
    Hereditary fits where
  field _ _ := whole _
  entry _ _ := whole _
  item _ _ := whole _
  rest _ := whole _

theorem Hereditary.of_mem_shares {fits : Fragment → Prop} (hereditary : Hereditary fits)
    {heads tails : List Template} {front rest : List Value}
    (fit : fits (.value (.list (front ++ rest)))) {share : Template × Value}
    (mem : share ∈ shares heads tails front rest) : fits (.value share.2) := by
  rcases List.mem_append.mp mem with mem | mem
  · exact hereditary.item fit (List.mem_append_left _ (List.of_mem_zip mem).2)
  · obtain ⟨tail, -, rfl⟩ := List.mem_map.mp mem
    exact hereditary.rest fit

/-- What is closed under unions and holds of what the slots of a template yield, holds of
whatever the template yields. The slots are only given what is handed down from the
fragment, so something hereditary may be asked of that. -/
theorem of_decompose {P : Assignment → Prop} {width : Nat} {t : Template} (fits : Fragment → Prop)
    (hereditary : Hereditary fits)
    (union : ∀ {a b c : Assignment}, a.union b = .ok c → P a → P b → P c) (blank : P (.blank width))
    (ofSlot : ∀ index attr, slot index attr ∈ t.parts → ∀ fragment flat, fits fragment →
      (slot index attr).decompose width fragment = .ok flat → P flat) :
    ∀ {fragment : Fragment} {flat : Assignment}, fits fragment →
      t.decompose width fragment = .ok flat → P flat := by
  induction t using partInduction with
  | empty =>
    intro fragment flat _ h
    obtain ⟨-, rfl⟩ := decompose_empty_eq_ok_iff.mp h
    exact blank
  | slot index attr => exact fun fit h => ofSlot index attr (mem_parts_self _) _ _ fit h
  | record tag fields ih =>
    have ofField : ∀ field ∈ fields, ∀ value found, fits (.value value) →
        decomposeField width tag field value = .ok found → P found := by
      intro field mem value found fit yields
      cases field with
      | computed name t =>
        rw [decomposeField] at yields
        refine ih name t mem (fun index attr there => ?_) fit yields
        exact ofSlot index attr (parts_subset_record mem there)
      | fixed =>
        obtain ⟨-, rfl⟩ := decomposeField_fixed_eq_ok_iff.mp yields
        exact blank
    intro fragment flat fit h
    cases fragment with
    | value =>
      obtain ⟨held, rfl, -, h⟩ := decompose_record_eq_ok_iff.mp h
      refine of_gather union h blank fun field mem found yields => ?_
      obtain ⟨value, isHeld, yields⟩ := decomposeHeld_eq_ok_iff.mp yields
      exact ofField field mem value found (hereditary.field fit isHeld) yields
    | fields part =>
      rw [decompose_record_fields] at h
      refine of_gather union h blank fun entry isEntry found yields => ?_
      obtain ⟨field, mem, -, yields⟩ := exists_of_decomposeNamed yields
      have isHeld : part.get? entry.1 = some entry.2 := (FieldChain.mem_toList part).mp isEntry
      exact ofField field mem entry.2 found (hereditary.entry fit isHeld) yields
  | list heads tails ihHeads ihTails =>
    intro fragment flat fit h
    obtain ⟨front, rest, rfl, -, -, h⟩ := decompose_list_eq_ok_iff.mp h
    refine of_gather union h blank fun share isShare found yields => ?_
    have fit : fits (.value share.2) := hereditary.of_mem_shares fit isShare
    rcases mem_shares isShare with mem | mem
    · refine ihHeads _ mem (fun index attr there => ?_) fit yields
      exact ofSlot index attr (parts_subset_heads mem there)
    · refine ihTails _ mem (fun index attr there => ?_) fit yields
      exact ofSlot index attr (parts_subset_tails mem there)

/-- A template takes a fragment apart into as many places as the rule has elements. -/
theorem width_of_decompose {width : Nat} {t : Template} {fragment : Fragment} {flat : Assignment}
    (h : t.decompose width fragment = .ok flat) : flat.width = width := by
  have union : ∀ {a b c : Assignment}, a.union b = .ok c → a.width = width → b.width = width →
      c.width = width := by
    intro a b c joins ha hb
    rw [Assignment.width_of_union joins, ha, hb, Nat.max_self]
  refine of_decompose (fun _ => True) (hereditary_of_whole fun _ => trivial) union
    (Assignment.width_blank width) ?_ trivial h
  intro index attr _ fragment flat _ h
  cases attr with
  | none => exact Assignment.width_of_single (decompose_bare_eq_ok_iff.mp h)
  | some attr =>
    obtain ⟨v, -, placed⟩ := decompose_attribute_eq_ok_iff.mp h
    exact Assignment.width_of_single placed

/-- Without attributes, a whole value is taken apart into whole values. -/
theorem whole_of_decompose {width : Nat} {t : Template} (plain : AttributeFree t) {v : Value}
    {flat : Assignment} (h : t.decompose width (.value v) = .ok flat) : flat.Whole := by
  refine of_decompose (fun fragment => ∃ v, fragment = .value v)
    (hereditary_of_whole fun v => ⟨v, rfl⟩) Assignment.whole_of_union
    (Assignment.whole_blank width) ?_ ⟨v, rfl⟩ h
  intro index attr there fragment flat isValue h i other set
  obtain rfl : attr = none := plain _ there
  rw [Assignment.get?_of_single (decompose_bare_eq_ok_iff.mp h)] at set
  split at set
  · cases set
    exact isValue
  · cases set

end Template
end ReversibleGrammar
