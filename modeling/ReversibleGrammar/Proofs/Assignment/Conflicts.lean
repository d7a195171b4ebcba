/-
# Conflicts of assignments

Two contents of one position agree if they are the same value, or records without a
common key. Two assignments conflict at a position where both give something and the
contents do not agree. They have a union unless they conflict somewhere, and the
fault is that of the least such position: the first key that two records share, in
the order of the bytes, or else the position with its two contents. So whatever
conflicts there are behind the first one, and of whatever kind, they are not reported.

Key definitions: `PartialRecord.FirstShared`, `Fragment.Agrees`, `Assignment.ConflictsAt`,
`Assignment.Reported`, `Assignment.Clashes`.
Key theorems: `PartialRecord.sharedKey?_eq_some_iff`, `Assignment.join_eq_error_iff`,
`Assignment.union_eq_error_iff`, `Assignment.clashes_of_union`,
`Assignment.union_reports_first_conflict`.
-/
import ReversibleGrammar.Proofs.Assignment.Laws
import ReversibleGrammar.Proofs.FieldMap.Names
import ReversibleGrammar.Proofs.Text.ByteOrder

namespace ReversibleGrammar

/-! ### Shared keys -/

namespace PartialRecord

/-- Both records set the key, and the bytes of any other key that both set come later. -/
structure FirstShared (a b : PartialRecord) (key : String) : Prop where
  left : (a.get? key).isSome
  right : (b.get? key).isSome
  first : ∀ other, (a.get? other).isSome → (b.get? other).isSome → other ≠ key →
    Text.bytes key < Text.bytes other

variable {a b : PartialRecord} {key other : String}

theorem FirstShared.unique (h : FirstShared a b key) (h' : FirstShared a b other) : key = other := by
  by_contra differ
  have before := h.first other h'.left h'.right (Ne.symm differ)
  have after := h'.first key h.left h.right differ
  exact List.lt_asymm before after

theorem firstShared_of_sharedKey? (h : a.sharedKey? b = some key) : FirstShared a b key := by
  obtain ⟨field, found, rfl⟩ := Option.map_eq_some_iff.mp h
  obtain ⟨left, before, after, split, none⟩ := List.find?_eq_some_iff_append.mp found
  have ascending := FieldChain.names_ascending b
  have isHeld (key : String) (held : (b.get? key).isSome) : ∃ value, (key, value) ∈ b.toList := by
    obtain ⟨value, held⟩ := Option.isSome_iff_exists.mp held
    exact ⟨value, (FieldChain.mem_toList b).mpr held⟩
  refine ⟨left, ?_, fun other inA inB differ => ?_⟩
  · have mem : field ∈ b.toList := by simp [split]
    rw [(FieldChain.mem_toList b).mp mem]
    rfl
  · obtain ⟨value, mem⟩ := isHeld other inB
    rw [split, List.mem_append, List.mem_cons] at mem
    rw [FieldChain.names, split, List.map_append, List.map_cons] at ascending
    rcases mem with early | rfl | late
    · have := none _ early
      simp [inA] at this
    · exact absurd rfl differ
    · have later := (List.pairwise_cons.mp (List.pairwise_append.mp ascending).2.1).1
      exact Text.bytes_lt_iff.mpr (later other (List.mem_map_of_mem late))

/-- The shared key that is found is the first one. -/
theorem sharedKey?_eq_some_iff : a.sharedKey? b = some key ↔ FirstShared a b key := by
  constructor
  · exact firstShared_of_sharedKey?
  · intro isFirst
    cases found : a.sharedKey? b with
    | none =>
      rcases sharedKey?_eq_none.mp found key with absent | absent
      · simpa [absent] using isFirst.left
      · simpa [absent] using isFirst.right
    | some other => rw [(firstShared_of_sharedKey? found).unique isFirst]

end PartialRecord

/-! ### One position -/

/-- The contents can stand at one position: they are the same value, or records without a
common key. -/
inductive Fragment.Agrees : Fragment → Fragment → Prop
  | same (v : Value) : Agrees (.value v) (.value v)
  | apart {a b : PartialRecord} (disjoint : FieldMap.Disjoint a b) : Agrees (.fields a) (.fields b)

namespace Assignment

/-- What two contents of a position that do not agree are reported as. -/
inductive Reported (position : Nat) : Fragment → Fragment → TemplateFault → Prop
  | collision {a b : PartialRecord} {key : String} (first : a.FirstShared b key) :
      Reported position (.fields a) (.fields b) (.keyCollision key)
  | conflict {held incoming : Fragment}
      (notRecords : ∀ a b, ¬ (held = .fields a ∧ incoming = .fields b)) :
      Reported position held incoming (.mergeConflict position held incoming)

variable {position : Nat} {held incoming : Fragment} {cause : TemplateFault}

theorem exists_joins_iff : (∃ result, Joins (some held) incoming result) ↔ held.Agrees incoming := by
  constructor
  · rintro ⟨result, joins⟩
    cases joins with
    | same v => exact .same v
    | merged free => exact .apart (PartialRecord.sharedKey?_eq_none_iff.mp free)
  · intro agrees
    cases agrees with
    | same v => exact ⟨_, .same v⟩
    | apart disjoint => exact ⟨_, .merged (PartialRecord.sharedKey?_eq_none_iff.mpr disjoint)⟩

theorem reported_of_join (h : join position (some held) incoming = .error cause) :
    Reported position held incoming cause := by
  generalize set : some held = place at h
  unfold join at h
  split at h
  · cases h
  · cases set
    rw [map_eq_error_iff] at h
    unfold PartialRecord.union at h
    split at h
    · rename_i key shared
      cases h
      exact .collision (PartialRecord.sharedKey?_eq_some_iff.mp shared)
    · cases h
  · cases set
    split at h
    · cases h
    · cases h
      exact .conflict fun _ _ both => by cases both.1
  · rename_i notRecords _
    cases set
    cases h
    exact .conflict fun a b both => notRecords a b both.2 both.1

theorem Reported.unique {other : TemplateFault} (h : Reported position held incoming cause)
    (h' : Reported position held incoming other) : cause = other := by
  cases h with
  | collision first =>
    cases h' with
    | collision first' => rw [first.unique first']
    | conflict notRecords => exact absurd ⟨rfl, rfl⟩ (notRecords _ _)
  | conflict notRecords =>
    cases h' with
    | collision => exact absurd ⟨rfl, rfl⟩ (notRecords _ _)
    | conflict => rfl

/-- Contents are not joined exactly where they do not agree, and that is reported. -/
theorem join_eq_error_iff : join position (some held) incoming = .error cause ↔
    ¬ held.Agrees incoming ∧ Reported position held incoming cause := by
  have succeeds : (∃ result, join position (some held) incoming = .ok result) ↔
      held.Agrees incoming := by
    simp only [join_eq_ok_iff, exists_joins_iff]
  rw [← succeeds, ← exists_eq_error_iff]
  constructor
  · intro h
    exact ⟨⟨cause, h⟩, reported_of_join h⟩
  · rintro ⟨⟨other, h⟩, reported⟩
    rw [h, (reported_of_join h).unique reported]

/-! ### The first conflict -/

/-- Both places hold something, and the contents do not agree. -/
def Conflicting (x y : Option Fragment) : Prop :=
  ∃ held incoming, x = some held ∧ y = some incoming ∧ ¬ held.Agrees incoming

/-- The fault of two places that conflict. -/
def ConflictReported (position : Nat) (x y : Option Fragment) (cause : TemplateFault) : Prop :=
  ∃ held incoming, x = some held ∧ y = some incoming ∧ ¬ held.Agrees incoming ∧
    Reported position held incoming cause

theorem conflictReported_some_iff {x : Option Fragment} :
    ConflictReported position x (some incoming) cause ↔ join position x incoming = .error cause := by
  cases x with
  | none =>
    constructor
    · rintro ⟨_, _, absent, -⟩
      cases absent
    · intro h
      cases h
  | some held => simp [ConflictReported, join_eq_error_iff]

theorem not_conflicting_some_iff {x : Option Fragment} :
    ¬ Conflicting x (some incoming) ↔ ∃ result, Joins x incoming result := by
  cases x with
  | none => exact iff_of_true (by simp [Conflicting]) ⟨incoming, .unset incoming⟩
  | some held => simp [Conflicting, exists_joins_iff]

theorem not_conflicting_none (x : Option Fragment) : ¬ Conflicting x none := by
  simp [Conflicting]

/-- The fault is that of the first two places that conflict, counted from a position on. -/
def FirstConflict (position : Nat) (places others : List (Option Fragment))
    (cause : TemplateFault) : Prop :=
  ∃ i, ConflictReported (position + i) places[i]?.join others[i]?.join cause ∧
    ∀ j < i, ¬ Conflicting places[j]?.join others[j]?.join

theorem firstConflict_cons_iff {x y : Option Fragment} {places others : List (Option Fragment)} :
    FirstConflict position (x :: places) (y :: others) cause ↔
      ConflictReported position x y cause ∨
        ¬ Conflicting x y ∧ FirstConflict (position + 1) places others cause := by
  constructor
  · rintro ⟨i, reported, free⟩
    cases i with
    | zero => exact .inl reported
    | succ i =>
      refine .inr ⟨free 0 i.succ_pos, i, ?_, fun j below => free (j + 1) (Nat.succ_lt_succ below)⟩
      rwa [Nat.add_right_comm]
  · rintro (reported | ⟨free, i, reported, freeLater⟩)
    · exact ⟨0, reported, fun j below => absurd below j.not_lt_zero⟩
    · refine ⟨i + 1, ?_, fun j below => ?_⟩
      · rwa [Nat.add_right_comm] at reported
      · cases j with
        | zero => exact free
        | succ j => exact freeLater j (Nat.lt_of_succ_lt_succ below)

/-- Two lists of places are not joined exactly because of the first two that conflict. -/
theorem unionFrom_eq_error_iff {places others : List (Option Fragment)} :
    unionFrom position places others = .error cause ↔
      FirstConflict position places others cause := by
  fun_induction unionFrom position places others with
  | case1 => simp [FirstConflict, ConflictReported]
  | case2 => simp [FirstConflict, ConflictReported]
  | case3 position held rest others ih =>
    rw [map_eq_error_iff, ih, firstConflict_cons_iff]
    simp [ConflictReported, not_conflicting_none]
  | case4 position held rest incoming others fault conflict =>
    have conflicting : Conflicting held (some incoming) := by
      by_contra no
      obtain ⟨result, joins⟩ := not_conflicting_some_iff.mp no
      rw [join_eq_ok_iff.mpr joins] at conflict
      cases conflict
    simp [firstConflict_cons_iff, conflictReported_some_iff, conflict, conflicting]
  | case5 position held rest incoming others result joins ih =>
    have free : ¬ Conflicting held (some incoming) :=
      not_conflicting_some_iff.mpr ⟨result, join_eq_ok_iff.mp joins⟩
    rw [map_eq_error_iff, ih, firstConflict_cons_iff, conflictReported_some_iff]
    simp [joins, free]

/-- Both assignments give the position something, and the contents do not agree. -/
def ConflictsAt (a b : Assignment) (i : Nat) : Prop :=
  Conflicting (a.get? i) (b.get? i)

/-- Two assignments have no union exactly because of the least position where they conflict. -/
theorem union_eq_error_iff {a b : Assignment} : a.union b = .error cause ↔
    ∃ p held incoming, a.get? p = some held ∧ b.get? p = some incoming ∧ ¬ held.Agrees incoming ∧
      (∀ q < p, ¬ a.ConflictsAt b q) ∧ Reported p held incoming cause := by
  rw [union, map_eq_error_iff, unionFrom_eq_error_iff]
  constructor
  · rintro ⟨p, ⟨held, incoming, isHeld, given, disagree, reported⟩, free⟩
    rw [Nat.zero_add] at reported
    exact ⟨p, held, incoming, isHeld, given, disagree, free, reported⟩
  · rintro ⟨p, held, incoming, isHeld, given, disagree, free, reported⟩
    refine ⟨p, ⟨held, incoming, isHeld, given, disagree, ?_⟩, free⟩
    rwa [Nat.zero_add]

/-- What a position holds and what it is given do not agree, and the fault that this is. -/
inductive Clashes (position : Nat) : Fragment → Fragment → TemplateFault → Prop
  | conflict {held incoming : Fragment} (differ : held ≠ incoming) :
      Clashes position held incoming (.mergeConflict position held incoming)
  | collision {a b : PartialRecord} {key : String} (shared : a.sharedKey? b = some key) :
      Clashes position (.fields a) (.fields b) (.keyCollision key)

/-- Two assignments that have no union both hold something at some position, and it clashes. -/
theorem clashes_of_union {a b : Assignment} (h : a.union b = .error cause) :
    ∃ (i : Nat) (held incoming : Fragment),
      a.get? i = some held ∧ b.get? i = some incoming ∧ Clashes i held incoming cause := by
  obtain ⟨i, held, incoming, isHeld, given, disagree, -, reported⟩ := union_eq_error_iff.mp h
  refine ⟨i, held, incoming, isHeld, given, ?_⟩
  cases reported with
  | collision first => exact .collision (PartialRecord.sharedKey?_eq_some_iff.mpr first)
  | conflict notRecords =>
    refine .conflict ?_
    rintro rfl
    cases held with
    | value v => exact disagree (.same v)
    | fields part => exact notRecords part part ⟨rfl, rfl⟩

theorem exists_merges_iff {x y : Option Fragment} : (∃ z, Merges x y z) ↔ ¬ Conflicting x y := by
  cases y with
  | none => exact iff_of_true ⟨x, .kept⟩ (not_conflicting_none x)
  | some incoming =>
    rw [not_conflicting_some_iff]
    simp [merges_some_iff]

/-- **A union fails exactly at a conflict, and reports the first one.** The fault names the
least position where two contents do not agree, by the first key that two records share or
else by the position with the texts of both contents, and never a position outside. A union
that succeeds is as wide as the wider assignment, and it merges what the two give each
position. -/
theorem union_reports_first_conflict (a b : Assignment) :
    ((∃ cause, a.union b = .error cause) ↔ ∃ p, a.ConflictsAt b p) ∧
    (∀ cause, a.union b = .error cause ↔ ∃ p held incoming,
      a.get? p = some held ∧ b.get? p = some incoming ∧ ¬ held.Agrees incoming ∧
        (∀ q < p, ¬ a.ConflictsAt b q) ∧ Reported p held incoming cause) ∧
    (∀ p held incoming, (TemplateFault.mergeConflict p held incoming).message =
      "merge conflict at position " ++ p.repr ++ ": " ++ held.display ++ " vs " ++
        incoming.display) ∧
    (∀ index count, a.union b ≠ .error (.noChild index count)) ∧
    (∀ c, a.union b = .ok c ↔
      c.width = max a.width b.width ∧ ∀ i, Merges (a.get? i) (b.get? i) (c.get? i)) ∧
    (∀ c, a.union b = .ok c → ∀ i, c.get? i = none ↔ a.get? i = none ∧ b.get? i = none) := by
  refine ⟨?_, fun cause => union_eq_error_iff, fun _ _ _ => rfl, fun index count h => ?_,
    fun c => union_eq_ok_iff, fun c h i => get?_of_union_eq_none_iff h⟩
  · rw [exists_eq_error_iff, exists_union_iff]
    simp only [exists_merges_iff, not_forall, not_not, ConflictsAt]
  · obtain ⟨p, held, incoming, -, -, -, -, reported⟩ := union_eq_error_iff.mp h
    cases reported

/-- The records at the second position share two keys, of which the first in order is reported,
and not what follows. Without those keys there is a union, as wide as the wider of the two. -/
theorem union_reports_first_of_two :
    let a : Assignment := ⟨[some (.value .null),
      some (.fields (FieldMap.ofList [("é", .null), ("k", .str "x"), ("z", .null)])),
      some (.value .null)]⟩
    let b : Assignment := ⟨[some (.value .null),
      some (.fields (FieldMap.ofList [("z", .null), ("k", .str "x"), ("b", .null)])),
      some (.value (.str "x")), none]⟩
    let narrow : Assignment := ⟨[none, some (.fields (FieldMap.single "b" .null))]⟩
    a.union b = .error (.keyCollision "k") ∧ (∃ p, a.ConflictsAt b p) ∧
      ∃ c, a.union narrow = .ok c ∧ c.width = 3 ∧ c.get? 0 ≠ none := by
  intro a b narrow
  have fails : a.union b = .error (.keyCollision "k") := by rfl
  obtain ⟨conflicts, -⟩ := union_reports_first_conflict a b
  obtain ⟨-, -, -, -, merged, unset⟩ := union_reports_first_conflict a narrow
  obtain ⟨c, h⟩ : ∃ c, a.union narrow = .ok c := ⟨_, rfl⟩
  refine ⟨fails, conflicts.mp ⟨_, fails⟩, c, h, ((merged c).mp h).1, fun absent => ?_⟩
  have isNull := ((unset c h 0).mp absent).1
  cases isNull

end Assignment
end ReversibleGrammar
