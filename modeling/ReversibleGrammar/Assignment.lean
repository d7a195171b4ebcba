/-
# Assignments

Taking a value apart fills an assignment, a list with one place for each
position of a rule. A place holds a fragment or is unset. Two assignments are
joined place by place: equal values agree, partial records without a common
key are merged, and anything else is a fault of the template.

Key definitions: `PartialRecord.union`, `Assignment`, `Assignment.set`,
`Assignment.union`.
Key theorems: `PartialRecord.sharedKey?_eq_none`, `Assignment.width_set`.
-/
import ReversibleGrammar.Template.Fault

namespace ReversibleGrammar

namespace PartialRecord

/-- The least key that both records set. -/
def sharedKey? (a b : PartialRecord) : Option String :=
  (b.toList.find? fun field => (a.get? field.1).isSome).map (·.1)

/-- The fields of both records. A common key is a fault, even where both give
it the same value. -/
def union (a b : PartialRecord) : Except TemplateFault PartialRecord :=
  match a.sharedKey? b with
  | some key => .error (.keyCollision key)
  | none => .ok (FieldMap.merge a b)

/-- There is no shared key exactly when each key is free in one of the records. -/
theorem sharedKey?_eq_none {a b : PartialRecord} :
    a.sharedKey? b = none ↔ ∀ key, a.get? key = none ∨ b.get? key = none := by
  unfold sharedKey?
  rw [Option.map_eq_none_iff, List.find?_eq_none]
  constructor
  · intro h key
    cases hb : b.get? key with
    | none => exact Or.inr rfl
    | some value =>
      have := h (key, value) ((FieldChain.mem_toList b).mpr hb)
      exact Or.inl (by simpa using this)
  · intro h field mem
    have hb := (FieldChain.mem_toList b).mp (show (field.1, field.2) ∈ b.toList from mem)
    rcases h field.1 with ha | hn
    · simp [ha]
    · rw [hn] at hb
      cases hb

end PartialRecord

/-- One optional fragment for each position of a rule. -/
structure Assignment where
  places : List (Option Fragment)
deriving DecidableEq

namespace Assignment

/-- The assignment of the given width with all places unset. -/
def blank (width : Nat) : Assignment :=
  ⟨List.replicate width none⟩

/-- The number of places. -/
def width (a : Assignment) : Nat :=
  a.places.length

/-- The fragment at a position, if it is set. -/
def get? (a : Assignment) (position : Nat) : Option Fragment :=
  (a.places[position]?).join

/-- Whether a position is set. -/
def isSet (a : Assignment) (position : Nat) : Bool :=
  (a.get? position).isSome

/-- The number of places that are set. -/
def count (a : Assignment) : Nat :=
  a.places.countP (·.isSome)

/-! ### Setting a position -/

/-- Joins what a place holds with what it is given. -/
def join (position : Nat) : Option Fragment → Fragment → Except TemplateFault Fragment
  | none, incoming => .ok incoming
  | some (.fields a), .fields b => (a.union b).map .fields
  | some (.value v), .value w =>
    if v = w then .ok (.value v) else .error (.mergeConflict position (.value v) (.value w))
  | some existing, incoming => .error (.mergeConflict position existing incoming)

/-- Gives a position a fragment. The assignment afterwards comes with the fault,
if there was one: a position outside the assignment changes nothing, and a
position whose contents do not agree with the fragment is left unset. -/
def set (a : Assignment) (position : Nat) (fragment : Fragment) :
    Assignment × Option TemplateFault :=
  match a.places[position]? with
  | none => (a, some (.noChild position a.width))
  | some held =>
    match join position held fragment with
    | .ok joined => (⟨a.places.set position (some joined)⟩, none)
    | .error fault => (⟨a.places.set position none⟩, some fault)

/-- The assignment with a single position set. -/
def single (width position : Nat) (fragment : Fragment) : Except TemplateFault Assignment :=
  match (blank width).set position fragment with
  | (a, none) => .ok a
  | (_, some fault) => .error fault

/-! ### Union -/

/-- Joins two lists of places from a position on. -/
def unionFrom (position : Nat) :
    List (Option Fragment) → List (Option Fragment) → Except TemplateFault (List (Option Fragment))
  | places, [] => .ok places
  | [], places => .ok places
  | held :: rest, none :: others => (unionFrom (position + 1) rest others).map (held :: ·)
  | held :: rest, some incoming :: others =>
    match join position held incoming with
    | .error fault => .error fault
    | .ok joined => (unionFrom (position + 1) rest others).map (some joined :: ·)

/-- Joins two assignments place by place; the wider one gives the width, and
the least position that does not agree gives the fault. -/
def union (a b : Assignment) : Except TemplateFault Assignment :=
  (unionFrom 0 a.places b.places).map Assignment.mk

/-! ### Text -/

/-- The text of a place. -/
def displayPlace : Option Fragment → String
  | some fragment => fragment.display
  | none => "_"

/-- The text of an assignment. -/
def display (a : Assignment) : String :=
  "[" ++ ", ".intercalate (a.places.map displayPlace) ++ "]"

/-! ### Width -/

theorem width_blank (n : Nat) : (blank n).width = n := by
  simp [blank, width]

/-- Setting a position keeps the width, also when it fails. -/
theorem width_set (a : Assignment) (position : Nat) (fragment : Fragment) :
    (a.set position fragment).1.width = a.width := by
  unfold set
  split
  · rfl
  · split <;> simp [width]

end Assignment

end ReversibleGrammar
