/-
# What a record template reports

The fields of a record are taken apart one by one, and what each yields is joined to what
those before it have yielded. The first obstacle ends this. It is a mismatch, if the value
that the record has for a field does not fit it, and it is a fault, if the field itself is
at fault or what it yields clashes with what is there.

So a field that does not fit keeps the record from being taken apart. But whether that is
reported as a mismatch depends on the fields before it, and in some order a fault comes
first unless the fields that do fit can be gathered by themselves.

Key definitions: `Template.isMismatch`, `Template.MismatchFirst`, `Template.FaultFirst`,
`Template.SameNames`.
Key theorems: `Template.gather_eq_mismatch_iff`, `Template.gather_eq_fault_iff`,
`Template.mismatch_in_every_order_iff`.
-/
import ReversibleGrammar.Proofs.FieldMap.Names
import ReversibleGrammar.Proofs.Template.GatheringOrder

namespace ReversibleGrammar
namespace Template

variable {α : Type} {f : α → Except Obstacle Assignment} {as bs : List α} {width : Nat}
  {flat : Assignment} {reason : Mismatch} {cause : TemplateFault}

/-- Whether a fragment could not be taken apart because of its shape. -/
def isMismatch : Except Obstacle Assignment → Bool
  | .error (.mismatch _) => true
  | _ => false

theorem isMismatch_iff {x : Except Obstacle Assignment} :
    isMismatch x = true ↔ ∃ reason, x = .error (.mismatch reason) := by
  unfold isMismatch
  split <;> simp_all

/-! ### Mismatches and faults of gathering -/

/-- The members before some member can be gathered, and that one does not fit. -/
def MismatchFirst (f : α → Except Obstacle Assignment) (as : List α) (flat : Assignment)
    (reason : Mismatch) : Prop :=
  ∃ before a after held, as = before ++ a :: after ∧ gather f before flat = .ok held ∧
    f a = .error (.mismatch reason)

/-- The members before some member can be gathered, and that one is at fault itself, or it
clashes with what they yield. -/
def FaultFirst (f : α → Except Obstacle Assignment) (as : List α) (flat : Assignment)
    (cause : TemplateFault) : Prop :=
  ∃ before a after held, as = before ++ a :: after ∧ gather f before flat = .ok held ∧
    (f a = .error (.fault cause) ∨ ∃ found, f a = .ok found ∧ held.union found = .error cause)

theorem gather_eq_mismatch_iff :
    gather f as flat = .error (.mismatch reason) ↔ MismatchFirst f as flat reason := by
  simp [MismatchFirst, gather_eq_error_iff, joined_eq_error_iff]

theorem gather_eq_fault_iff :
    gather f as flat = .error (.fault cause) ↔ FaultFirst f as flat cause := by
  simp [FaultFirst, gather_eq_error_iff, joined_eq_error_iff]

theorem not_gather_of_isMismatch (some : ∃ a ∈ as, isMismatch (f a) = true) {result : Assignment} :
    gather f as flat ≠ .ok result := by
  intro h
  obtain ⟨a, mem, misfit⟩ := some
  obtain ⟨reason, mismatch⟩ := isMismatch_iff.mp misfit
  obtain ⟨found, yields⟩ := exists_of_gather h a mem
  rw [mismatch] at yields
  cases yields

/-- Members that all have a result or a fault of their own do not come to a mismatch. -/
theorem not_mismatch_of_gather (none : ∀ a ∈ as, isMismatch (f a) = false) :
    gather f as flat ≠ .error (.mismatch reason) := by
  intro h
  obtain ⟨before, a, after, -, rfl, -, mismatch⟩ := gather_eq_mismatch_iff.mp h
  have fits := none a (by simp)
  rw [mismatch] at fits
  cases fits

theorem exists_mismatch_of_gather_fitting (someMisfit : ∃ a ∈ as, isMismatch (f a) = true)
    (rest : ∃ flat, gather f (as.filter fun a => !isMismatch (f a)) (.blank width) = .ok flat) :
    ∃ reason, gather f as (.blank width) = .error (.mismatch reason) := by
  cases h : gather f as (.blank width) with
  | ok result => exact absurd h (not_gather_of_isMismatch someMisfit)
  | error obstacle =>
    cases obstacle with
    | mismatch reason => exact ⟨reason, rfl⟩
    | fault cause =>
      -- All members up to the one that is at fault fit, so they can be gathered with the others.
      obtain ⟨before, a, after, held, rfl, gathered, fails⟩ := gather_eq_fault_iff.mp h
      have fits : ∀ b ∈ before ++ [a], (!isMismatch (f b)) = true := by
        intro b mem
        rcases List.mem_append.mp mem with mem | mem
        · obtain ⟨found, yields⟩ := exists_of_gather gathered b mem
          simp [yields, isMismatch]
        · obtain rfl := List.mem_singleton.mp mem
          rcases fails with atFault | ⟨found, yields, -⟩
          · simp [atFault, isMismatch]
          · simp [yields, isMismatch]
      have sub : (before ++ [a]).Sublist
          ((before ++ a :: after).filter fun a => !isMismatch (f a)) := by
        rw [List.append_cons before a after, List.filter_append, List.filter_eq_self.mpr fits]
        exact List.sublist_append_left _ _
      obtain ⟨result, ok⟩ := exists_gather_of_sublist sub rest
      have error : gather f (before ++ [a]) (.blank width) = .error (.fault cause) :=
        gather_eq_fault_iff.mpr ⟨before, a, [], held, rfl, gathered, fails⟩
      rw [error] at ok
      cases ok

/-- Gathering comes to a mismatch in every order exactly if the members that have none
themselves can be gathered. -/
theorem mismatch_in_every_order_iff (someMisfit : ∃ a ∈ as, isMismatch (f a) = true) :
    (∀ bs : List α, bs.Perm as →
      ∃ reason, gather f bs (.blank width) = .error (.mismatch reason)) ↔
    ∃ flat, gather f (as.filter fun a => !isMismatch (f a)) (.blank width) = .ok flat := by
  constructor
  · intro always
    -- With the members that fit in front, it is only there that a fault can come first.
    have perm : (as.filter (fun a => !isMismatch (f a)) ++
        as.filter fun a => !!isMismatch (f a)).Perm as :=
      List.filter_append_perm _ as
    obtain ⟨reason, h⟩ := always _ perm
    rw [gather_append] at h
    rcases bind_eq_error_iff.mp h with early | ⟨flat, ok, -⟩
    · exact absurd early (not_mismatch_of_gather (by simp))
    · exact ⟨flat, ok⟩
  · intro rest bs perm
    obtain ⟨flat, ok⟩ := rest
    obtain ⟨a, mem, misfit⟩ := someMisfit
    exact exists_mismatch_of_gather_fitting ⟨a, perm.mem_iff.mpr mem, misfit⟩
      ⟨flat, (gather_perm (perm.filter _)).mpr ok⟩

/-! ### Records with the names of the template -/

/-- The record has a value for each field of the template, and for no other name. -/
def SameNames (fields : List Field) (held : FieldMap Value) : Prop :=
  ∀ key, key ∈ fields.map Field.name ↔ ∃ value, held.get? key = some value

variable {tag : String} {fields : List Field} {held : FieldMap Value}

theorem SameNames.size_eq (same : SameNames fields held)
    (distinct : (fields.map Field.name).Nodup) : held.size = fields.length := by
  have only : ∀ key value, held.get? key = some value → key ∈ fields.map Field.name :=
    fun key value isHeld => (same key).mpr ⟨value, isHeld⟩
  rw [(FieldChain.size_eq_length_iff distinct fun name mem => (same name).mp mem).mpr only,
    List.length_map]

theorem decompose_sameNames (distinct : (fields.map Field.name).Nodup)
    (same : SameNames fields held) {reordered : List Field} (perm : reordered.Perm fields) :
    (record tag reordered).decompose width (.value (.record tag held)) =
      gather (decomposeHeld width tag held) reordered (.blank width) :=
  decompose_held width ((same.size_eq distinct).trans perm.length_eq.symm)

end Template
end ReversibleGrammar
