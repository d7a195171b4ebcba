/-
# Strings in fixed fields

The only free text that a template holds is in its fixed fields: the strings among the
values, in lists of them too. A function of strings can be applied to all of these and to
nothing else. It changes a template unless it changes none of the strings.

Key definitions: `Value.strings`, `Value.mapStrings`, `Template.fixedStrings`,
`Template.mapStrings`, `Rule.mapStrings`.
Key theorems: `Template.mapStrings_eq_self_iff`, `Template.fixedStrings_mapStrings`.
-/
import ReversibleGrammar.Rule

namespace ReversibleGrammar

/-! ### Values -/

namespace Value

mutual

/-- The strings of a value, those in lists among them; a record is left alone. -/
def strings : Value → List String
  | str content => [content]
  | list items => stringsOfItems items
  | _ => []

/-- The strings of some values. -/
def stringsOfItems : List Value → List String
  | [] => []
  | v :: vs => strings v ++ stringsOfItems vs

end

mutual

/-- The value with a function applied to its strings. -/
def mapStrings (f : String → String) : Value → Value
  | str content => str (f content)
  | list items => list (mapStringsOfItems f items)
  | v => v

/-- The values with a function applied to their strings. -/
def mapStringsOfItems (f : String → String) : List Value → List Value
  | [] => []
  | v :: vs => mapStrings f v :: mapStringsOfItems f vs

end

variable {f : String → String}

theorem mapStringsOfItems_eq_map (vs : List Value) :
    mapStringsOfItems f vs = vs.map (mapStrings f) := by
  induction vs with
  | nil => rfl
  | cons v vs ih => rw [mapStringsOfItems, ih, List.map_cons]

mutual

theorem strings_mapStrings : ∀ v : Value, (mapStrings f v).strings = v.strings.map f
  | null => rfl
  | str _ => rfl
  | word _ => rfl
  | list items => by rw [mapStrings, strings, strings, stringsOfItems_mapStringsOfItems items]
  | record _ _ => rfl

theorem stringsOfItems_mapStringsOfItems : ∀ vs : List Value,
    stringsOfItems (mapStringsOfItems f vs) = (stringsOfItems vs).map f
  | [] => rfl
  | v :: vs => by
    rw [mapStringsOfItems, stringsOfItems, stringsOfItems, strings_mapStrings v,
      stringsOfItems_mapStringsOfItems vs, List.map_append]

end

mutual

theorem mapStrings_eq_self_iff : ∀ {v : Value}, mapStrings f v = v ↔ ∀ s ∈ v.strings, f s = s
  | null => by simp [mapStrings, strings]
  | str _ => by simp [mapStrings, strings]
  | word _ => by simp [mapStrings, strings]
  | list items => by rw [mapStrings, strings, Value.list.injEq, mapStringsOfItems_eq_self_iff]
  | record _ _ => by simp [mapStrings, strings]

theorem mapStringsOfItems_eq_self_iff : ∀ {vs : List Value},
    mapStringsOfItems f vs = vs ↔ ∀ s ∈ stringsOfItems vs, f s = s
  | [] => by simp [mapStringsOfItems, stringsOfItems]
  | v :: vs => by
    rw [mapStringsOfItems, stringsOfItems, List.cons.injEq, List.forall_mem_append,
      mapStrings_eq_self_iff, mapStringsOfItems_eq_self_iff]

end

end Value

/-! ### Templates -/

namespace Template

mutual

/-- The strings in the fixed fields of a template and of all that are nested in it. -/
def fixedStrings : Template → List String
  | record _ fields => fixedStringsOfFields fields
  | list heads tails => fixedStringsOfEach heads ++ fixedStringsOfEach tails
  | _ => []

/-- The strings in the fixed ones of some fields, and in those nested in the others. -/
def fixedStringsOfFields : List Field → List String
  | [] => []
  | field :: rest => fixedStringsOfField field ++ fixedStringsOfFields rest

/-- The strings in a field. -/
def fixedStringsOfField : Field → List String
  | .computed _ t => fixedStrings t
  | .fixed _ value => value.strings

/-- The strings in the fixed fields of some templates. -/
def fixedStringsOfEach : List Template → List String
  | [] => []
  | t :: rest => fixedStrings t ++ fixedStringsOfEach rest

end

mutual

/-- The template with a function applied to the strings in its fixed fields. -/
def mapStrings (f : String → String) : Template → Template
  | record tag fields => record tag (mapStringsOfFields f fields)
  | list heads tails => list (mapStringsOfEach f heads) (mapStringsOfEach f tails)
  | t => t

/-- The fields with a function applied to the strings in the fixed ones. -/
def mapStringsOfFields (f : String → String) : List Field → List Field
  | [] => []
  | field :: rest => mapStringsOfField f field :: mapStringsOfFields f rest

/-- The field with a function applied to the strings in it. -/
def mapStringsOfField (f : String → String) : Field → Field
  | .computed name t => .computed name (mapStrings f t)
  | .fixed name value => .fixed name (value.mapStrings f)

/-- The templates with a function applied to the strings in their fixed fields. -/
def mapStringsOfEach (f : String → String) : List Template → List Template
  | [] => []
  | t :: rest => mapStrings f t :: mapStringsOfEach f rest

end

variable {f : String → String}

theorem mapStringsOfFields_eq_map (fields : List Field) :
    mapStringsOfFields f fields = fields.map (mapStringsOfField f) := by
  induction fields with
  | nil => rfl
  | cons field fields ih => rw [mapStringsOfFields, ih, List.map_cons]

theorem mapStringsOfEach_eq_map (ts : List Template) :
    mapStringsOfEach f ts = ts.map (mapStrings f) := by
  induction ts with
  | nil => rfl
  | cons t ts ih => rw [mapStringsOfEach, ih, List.map_cons]

theorem name_mapStringsOfField (field : Field) : (mapStringsOfField f field).name = field.name := by
  cases field <;> rfl

mutual

theorem fixedStrings_mapStrings : ∀ t : Template, (mapStrings f t).fixedStrings = t.fixedStrings.map f
  | empty => rfl
  | slot _ _ => rfl
  | record _ fields => by
    rw [mapStrings, fixedStrings, fixedStrings, fixedStringsOfFields_mapStrings fields]
  | list heads tails => by
    rw [mapStrings, fixedStrings, fixedStrings, fixedStringsOfEach_mapStrings heads,
      fixedStringsOfEach_mapStrings tails, List.map_append]

theorem fixedStringsOfFields_mapStrings : ∀ fields : List Field,
    fixedStringsOfFields (mapStringsOfFields f fields) = (fixedStringsOfFields fields).map f
  | [] => rfl
  | field :: rest => by
    rw [mapStringsOfFields, fixedStringsOfFields, fixedStringsOfFields,
      fixedStringsOfField_mapStrings field, fixedStringsOfFields_mapStrings rest, List.map_append]

theorem fixedStringsOfField_mapStrings : ∀ field : Field,
    fixedStringsOfField (mapStringsOfField f field) = (fixedStringsOfField field).map f
  | .computed _ t => by
    rw [mapStringsOfField, fixedStringsOfField, fixedStringsOfField, fixedStrings_mapStrings t]
  | .fixed _ value => Value.strings_mapStrings value

theorem fixedStringsOfEach_mapStrings : ∀ ts : List Template,
    fixedStringsOfEach (mapStringsOfEach f ts) = (fixedStringsOfEach ts).map f
  | [] => rfl
  | t :: rest => by
    rw [mapStringsOfEach, fixedStringsOfEach, fixedStringsOfEach, fixedStrings_mapStrings t,
      fixedStringsOfEach_mapStrings rest, List.map_append]

end

mutual

theorem mapStrings_eq_self_iff : ∀ {t : Template},
    mapStrings f t = t ↔ ∀ s ∈ t.fixedStrings, f s = s
  | empty => by simp [mapStrings, fixedStrings]
  | slot _ _ => by simp [mapStrings, fixedStrings]
  | record tag fields => by
    rw [mapStrings, fixedStrings, ← mapStringsOfFields_eq_self_iff, record.injEq]
    exact and_iff_right rfl
  | list heads tails => by
    rw [mapStrings, fixedStrings, list.injEq, List.forall_mem_append, mapStringsOfEach_eq_self_iff,
      mapStringsOfEach_eq_self_iff]

theorem mapStringsOfFields_eq_self_iff : ∀ {fields : List Field},
    mapStringsOfFields f fields = fields ↔ ∀ s ∈ fixedStringsOfFields fields, f s = s
  | [] => by simp [mapStringsOfFields, fixedStringsOfFields]
  | field :: rest => by
    rw [mapStringsOfFields, fixedStringsOfFields, List.cons.injEq, List.forall_mem_append,
      mapStringsOfField_eq_self_iff, mapStringsOfFields_eq_self_iff]

theorem mapStringsOfField_eq_self_iff : ∀ {field : Field},
    mapStringsOfField f field = field ↔ ∀ s ∈ fixedStringsOfField field, f s = s
  | .computed name t => by
    rw [mapStringsOfField, fixedStringsOfField, ← mapStrings_eq_self_iff, Field.computed.injEq]
    exact and_iff_right rfl
  | .fixed name value => by
    rw [mapStringsOfField, fixedStringsOfField, ← Value.mapStrings_eq_self_iff, Field.fixed.injEq]
    exact and_iff_right rfl

theorem mapStringsOfEach_eq_self_iff : ∀ {ts : List Template},
    mapStringsOfEach f ts = ts ↔ ∀ s ∈ fixedStringsOfEach ts, f s = s
  | [] => by simp [mapStringsOfEach, fixedStringsOfEach]
  | t :: rest => by
    rw [mapStringsOfEach, fixedStringsOfEach, List.cons.injEq, List.forall_mem_append,
      mapStrings_eq_self_iff, mapStringsOfEach_eq_self_iff]

end

end Template

/-! ### Rules -/

namespace Rule

/-- The rule with a function applied to the strings in the fixed fields of its template. -/
def mapStrings (f : String → String) (rule : Rule) : Rule :=
  ⟨rule.name, rule.rhs, rule.template.mapStrings f⟩

variable {f : String → String} {rule : Rule}

theorem mapStrings_eq_self_iff :
    rule.mapStrings f = rule ↔ ∀ s ∈ rule.template.fixedStrings, f s = s := by
  rw [← Template.mapStrings_eq_self_iff]
  constructor
  · exact congrArg Rule.template
  · intro same
    rw [mapStrings, same]

end Rule

end ReversibleGrammar
