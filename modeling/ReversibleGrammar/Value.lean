/-
# Values

A value is what a sentence means: nothing, a string, a word, a list of values,
or a record, a tag with named fields. The fields of a record have no order, so
two records are equal when they have the same tag and the same field map.

Key definitions: `Value`, `Value.same`, `Value.field?`, `Value.display`.
Key theorems: `Value.same_iff`.
-/
import ReversibleGrammar.FieldMap
import ReversibleGrammar.Text.Quoted
import ReversibleGrammar.Word

namespace ReversibleGrammar

/-- The meaning of a sentence, or of a part of one. -/
inductive Value where
  /-- The value of an empty rule. -/
  | null
  | str (content : String)
  | word (word : Word)
  | list (items : List Value)
  | record (tag : String) (fields : FieldChain Value none)

namespace Value

/-! ### Equality -/

mutual

/-- Whether two values are the same. -/
def same : Value → Value → Bool
  | null, null => true
  | str s, str t => s == t
  | word w, word x => w == x
  | list items, list others => sameItems items others
  | record tag fields, record tag' fields' => tag == tag' && sameFields fields fields'
  | _, _ => false

/-- Whether two lists hold the same values in the same places. -/
def sameItems : List Value → List Value → Bool
  | [], [] => true
  | v :: vs, w :: ws => same v w && sameItems vs ws
  | _, _ => false

/-- Whether two chains hold the same values under the same names. -/
def sameFields {lo lo' : Option String} : FieldChain Value lo → FieldChain Value lo' → Bool
  | .nil, .nil => true
  | .cons name _ v rest, .cons name' _ w rest' =>
    name == name' && same v w && sameFields rest rest'
  | _, _ => false

end

mutual

theorem same_self : ∀ v : Value, same v v = true
  | null => by simp [same]
  | str _ => by simp [same]
  | word _ => by simp [same]
  | list items => by simp [same, sameItems_self items]
  | record _ fields => by simp [same, sameFields_self fields]

theorem sameItems_self : ∀ vs : List Value, sameItems vs vs = true
  | [] => by simp [sameItems]
  | v :: vs => by simp [sameItems, same_self v, sameItems_self vs]

theorem sameFields_self {lo : Option String} : ∀ fields : FieldChain Value lo,
    sameFields fields fields = true
  | .nil => by simp [sameFields]
  | .cons _ _ v rest => by simp [sameFields, same_self v, sameFields_self rest]

end

mutual

theorem eq_of_same : ∀ {v w : Value}, same v w = true → v = w
  | null, w, h => by cases w <;> simp [same] at h ⊢
  | str _, w, h => by cases w <;> simp_all [same]
  | word _, w, h => by cases w <;> simp_all [same]
  | list items, w, h => by
    cases w with
    | list others =>
      have h : sameItems items others = true := by simpa [same] using h
      rw [eq_of_sameItems h]
    | _ => simp [same] at h
  | record tag fields, w, h => by
    cases w with
    | record tag' fields' =>
      simp only [same, Bool.and_eq_true, beq_iff_eq] at h
      rw [h.1, eq_of_sameFields h.2]
    | _ => simp [same] at h

theorem eq_of_sameItems : ∀ {vs ws : List Value}, sameItems vs ws = true → vs = ws
  | [], ws, h => by cases ws <;> simp [sameItems] at h ⊢
  | v :: vs, ws, h => by
    cases ws with
    | nil => simp [sameItems] at h
    | cons w ws =>
      simp only [sameItems, Bool.and_eq_true] at h
      rw [eq_of_same h.1, eq_of_sameItems h.2]

theorem eq_of_sameFields {lo : Option String} : ∀ {a b : FieldChain Value lo},
    sameFields a b = true → a = b
  | .nil, b, h => by cases b <;> simp [sameFields] at h ⊢
  | .cons name above v rest, b, h => by
    cases b with
    | nil => simp [sameFields] at h
    | cons name' above' w rest' =>
      simp only [sameFields, Bool.and_eq_true, beq_iff_eq] at h
      obtain ⟨⟨e, hv⟩, hr⟩ := h
      subst e
      rw [eq_of_same hv, eq_of_sameFields hr]

end

/-- The comparison decides equality. -/
theorem same_iff {v w : Value} : same v w = true ↔ v = w :=
  ⟨eq_of_same, fun h => h ▸ same_self v⟩

theorem sameFields_iff {lo : Option String} {a b : FieldChain Value lo} :
    sameFields a b = true ↔ a = b :=
  ⟨eq_of_sameFields, fun h => h ▸ sameFields_self a⟩

instance : DecidableEq Value := fun v w => decidable_of_iff (same v w = true) same_iff

instance {lo : Option String} : DecidableEq (FieldChain Value lo) := fun a b =>
  decidable_of_iff (sameFields a b = true) sameFields_iff

/-! ### Parts -/

/-- The items of a list. -/
def items? : Value → Option (List Value)
  | list items => some items
  | _ => none

/-- The tag of a record. -/
def tag? : Value → Option String
  | record tag _ => some tag
  | _ => none

/-- A field of a record; no other value has fields. -/
def field? : Value → String → Option Value
  | record _ fields, name => fields.get? name
  | _, _ => none

/-! ### Text -/

/-- The text of a braced group of entries. -/
def braced (entries : List String) : String :=
  "\x7b" ++ ",".intercalate (entries.map (" " ++ ·)) ++ " \x7d"

mutual

/-- The text of a value. -/
def display : Value → String
  | null => "null"
  | str content => Text.quote content
  | word (.marker token) => "'" ++ token ++ "'"
  | word (.text tokens) => "<" ++ " ".intercalate tokens ++ ">"
  | list items => "[" ++ ", ".intercalate (displayItems items) ++ "]"
  | record tag .nil => tag
  | record tag fields => tag ++ " " ++ braced (displayFields fields)

/-- The texts of the values of a list. -/
def displayItems : List Value → List String
  | [] => []
  | v :: vs => display v :: displayItems vs

/-- The texts of the fields of a chain, each with its name. -/
def displayFields {lo : Option String} : FieldChain Value lo → List String
  | .nil => []
  | .cons name _ v rest => (name ++ ": " ++ display v) :: displayFields rest

end

end Value

end ReversibleGrammar
