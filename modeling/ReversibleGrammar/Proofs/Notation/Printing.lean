/-
# Printed grammars are read

Of every expressible grammar the printed text is read again, part by part: a text spells
just what the printer wrote, whatever follows that can follow it. What is read is what
was printed, except that a fixed string comes back as it was written, without the
backslashes.

Key definitions: `Rule.reread`.
Key theorems: `Template.Expressible.spells`, `Rule.Expressible.spells`,
`Notation.spellsRules_written`.
-/
import ReversibleGrammar.Proofs.Notation.PrintedLexemes
import ReversibleGrammar.Proofs.Template.FixedStrings

namespace ReversibleGrammar
namespace Notation

variable {s rest : List Char}

/-! ### Separated texts -/

theorem toList_intercalate_cons_cons (separator first second : String) (others : List String) :
    (separator.intercalate (first :: second :: others)).toList =
      first.toList ++ (separator.toList ++ (separator.intercalate (second :: others)).toList) := by
  simp only [String.toList_intercalate, List.map_cons, List.intercalate_cons_cons, List.append_assoc]

theorem toList_intercalate_singleton (separator text : String) :
    (separator.intercalate [text]).toList = text.toList := by
  simp only [String.toList_intercalate, List.map_cons, List.map_nil, List.intercalate_singleton]

/-- Items that are printed one by one are read one by one. -/
theorem SpellsItems.printed {α : Type} {text : α → String} {read : α → Expression}
    (closing : Closing) (rest : List Char) : ∀ xs : List α,
    (∀ x ∈ xs, ∀ rest, Stops rest → SpellsExpression ((text x).toList ++ rest) (read x) rest) →
      SpellsItems ((", ".intercalate (xs.map text)).toList ++ closing.mark :: rest) (xs.map read)
        closing rest
  | [], _ => by
    refine .closed ?_
    cases closing <;> exact skipBlank_of_visible (by decide) (by decide)
  | [x], all => by
    have stops : Stops (closing.mark :: rest) := by
      cases closing <;> exact stops_cons (by decide) (by decide) rest
    rw [List.map_singleton, toList_intercalate_singleton]
    refine .last (all x (List.mem_singleton_self x) _ stops) ?_
    cases closing <;> exact skipBlank_of_visible (by decide) (by decide)
  | x :: y :: xs, all => by
    obtain ⟨first, others⟩ := List.forall_mem_cons.mp all
    have more := SpellsItems.printed closing rest (y :: xs) others
    rw [List.map_cons, List.map_cons, toList_intercalate_cons_cons, List.append_assoc,
      List.append_assoc]
    refine .more (first _ (stops_cons (by decide) (by decide) _))
      (skipBlank_of_visible (by decide) (by decide)) (more.of_skipBlank_eq ?_)
    exact skipBlank_space _

/-! ### Lists of one kind -/

namespace Expression

variable {α : Type}

theorem values?_map_fixed (f : α → Value) (xs : List α) :
    values? (xs.map fun x => fixed (f x)) = some (xs.map f) := by
  rw [values?_eq_some_iff, List.map_map]
  rfl

theorem templates?_map_computed (f : α → Template) (xs : List α) :
    templates? (xs.map fun x => computed (f x)) = some (xs.map f) := by
  rw [templates?_eq_some_iff, List.map_map]
  rfl

/-- Fixed items, of which there are some, make a fixed list. -/
theorem ofItems?_fixed (f : α → Value) {xs : List α} (notEmpty : xs ≠ []) :
    ofItems? (xs.map fun x => fixed (f x)) = some (fixed (.list (xs.map f))) := by
  rw [ofItems?, if_neg (by simpa using notEmpty), values?_map_fixed]

/-- Items of which none is fixed make a list template without tails. -/
theorem ofItems?_computed (f : α → Template) (xs : List α) :
    ofItems? (xs.map fun x => computed (f x)) = some (computed (.list (xs.map f) [])) := by
  cases xs with
  | nil => rfl
  | cons x xs =>
    have noValues : values? ((x :: xs).map fun x => computed (f x)) = none := rfl
    rw [ofItems?, noValues, templates?_map_computed]
    rfl

theorem ofHeadsAndTails?_computed (f : α → Template) (heads tails : List α) :
    ofHeadsAndTails? (heads.map fun x => computed (f x)) (tails.map fun x => computed (f x)) =
      some (computed (.list (heads.map f) (tails.map f))) := by
  rw [ofHeadsAndTails?, templates?_map_computed, templates?_map_computed]

end Expression

end Notation

/-! ### Values -/

open Notation

theorem Value.displayItems_eq_map (vs : List Value) : displayItems vs = vs.map display := by
  induction vs with
  | nil => rfl
  | cons v vs ih => rw [displayItems, ih, List.map_cons]

theorem Value.Expressible.spells {v : Value} (h : v.Expressible) : ∀ rest, Stops rest →
    SpellsExpression (v.display.toList ++ rest) (.fixed (v.mapStrings Text.reread)) rest := by
  induction h with
  | null =>
    intro rest stops
    exact .null (readName_takes_printed (by decide) fun _ _ eq => stops.noNameChar eq)
  | str content =>
    intro rest stops
    exact .string (readString_takes_printed content)
  | @list items notEmpty all ih =>
    intro rest stops
    have inside := SpellsItems.printed .bracket rest items ih
    rw [mapStrings, mapStringsOfItems_eq_map]
    refine .list ?_ inside (Expression.ofItems?_fixed _ notEmpty)
    rw [display, displayItems_eq_map, String.toList_append, String.toList_append, List.append_assoc,
      List.append_assoc]
    exact skipBlank_of_visible (by decide) (by decide)

/-! ### Fields -/

namespace Template

theorem displayFields_eq_map (fields : List Field) :
    displayFields fields = fields.map displayField := by
  induction fields with
  | nil => rfl
  | cons field fields ih => rw [displayFields, ih, List.map_cons]

theorem displayEach_eq_map (ts : List Template) : displayEach ts = ts.map display := by
  induction ts with
  | nil => rfl
  | cons t ts ih => rw [displayEach, ih, List.map_cons]

end Template

namespace Notation

/-- Behind its name, a field prints an expression that is read as the field is reread. -/
def SpellsField (field : Field) : Prop :=
  ∃ text e, Template.displayField field = field.name ++ ": " ++ text ∧
    Expression.toField field.name e = Template.mapStringsOfField Text.reread field ∧
    ∀ rest, Stops rest → SpellsExpression (text.toList ++ rest) e rest

/-- The name of a printed field is read, and its expression is spelled behind the colon. -/
theorem SpellsField.exists_takes {field : Field} (h : SpellsField field)
    (isField : isName field.name = true) {rest : List Char} (stops : Stops rest) :
    ∃ afterName afterColon e,
      (readName ((" " ++ Template.displayField field).toList ++ rest)).Takes field.name afterName ∧
      skipBlank afterName = ':' :: afterColon ∧ SpellsExpression afterColon e rest ∧
      Expression.toField field.name e = Template.mapStringsOfField Text.reread field := by
  obtain ⟨text, e, shown, read, spells⟩ := h
  have colon : skipBlank (':' :: ' ' :: (text.toList ++ rest)) = ':' :: ' ' :: (text.toList ++ rest) :=
    skipBlank_of_visible (by decide) (by decide)
  have stop : ∀ c tail, ':' :: ' ' :: (text.toList ++ rest) = c :: tail → isNameChar c = false := by
    rintro _ _ ⟨⟩
    decide
  have layout : (" " ++ Template.displayField field).toList ++ rest =
      ' ' :: (field.name.toList ++ ':' :: ' ' :: (text.toList ++ rest)) := by
    rw [shown]
    simp only [String.toList_append, List.append_assoc]
    rfl
  refine ⟨_, _, e, ?_, colon, (spells rest stops).of_skipBlank_eq (skipBlank_space _), read⟩
  rw [layout]
  exact readName_takes_of_skipBlank_eq (skipBlank_space _) (readName_takes_printed isField stop)

theorem any_name_eq_false {name : String} {before : List Field} {others : List String}
    (distinct : (before.map Field.name ++ name :: others).Nodup) :
    (before.any fun field => field.name == name) = false := by
  have apart := (List.nodup_append.mp distinct).2.2
  rw [List.any_eq_false]
  intro field mem same
  exact apart field.name (List.mem_map_of_mem mem) name List.mem_cons_self (beq_iff_eq.mp same)

/-- Fields that are printed one by one are read one by one. -/
theorem SpellsFields.printed (tag : String) (rest : List Char) : ∀ fields before : List Field,
    (∀ field ∈ fields, isName field.name = true ∧ SpellsField field) →
    (before.map Field.name ++ fields.map Field.name).Nodup →
      SpellsFields tag before
        ((",".intercalate ((fields.map Template.displayField).map (" " ++ ·))).toList ++
          ' ' :: '\x7d' :: rest)
        (.record tag (before ++ fields.map (Template.mapStringsOfField Text.reread))) rest
  | [], before, _, _ => by
    rw [List.map_nil, List.map_nil, List.map_nil, List.append_nil]
    refine .closed ?_
    exact (skipBlank_space _).trans (skipBlank_of_visible (by decide) (by decide))
  | [field], before, all, distinct => by
    obtain ⟨isField, spells⟩ := all field (List.mem_singleton_self field)
    have stops : Stops (' ' :: '\x7d' :: rest) := stops_cons (by decide) (by decide) _
    obtain ⟨afterName, afterColon, e, name, colon, value, read⟩ := spells.exists_takes isField stops
    simp only [List.map_cons, List.map_nil, toList_intercalate_singleton]
    rw [← read]
    refine .last name colon (any_name_eq_false distinct) value ?_
    exact (skipBlank_space _).trans (skipBlank_of_visible (by decide) (by decide))
  | field :: next :: fields, before, all, distinct => by
    obtain ⟨⟨isField, spells⟩, allOthers⟩ := List.forall_mem_cons.mp all
    -- Rereading keeps the names, so what was read before is as distinct as what was printed.
    have distinct' : ((before ++ [Template.mapStringsOfField Text.reread field]).map Field.name ++
        (next :: fields).map Field.name).Nodup := by
      rw [List.map_append, List.map_singleton, Template.name_mapStringsOfField, List.append_assoc]
      exact distinct
    have others := SpellsFields.printed tag rest (next :: fields) _ allOthers distinct'
    have stops : ∀ tail, Stops (',' :: tail) := stops_cons (by decide) (by decide)
    obtain ⟨afterName, afterColon, e, name, colon, value, read⟩ :=
      spells.exists_takes isField (stops _)
    have made : before ++ (field :: next :: fields).map (Template.mapStringsOfField Text.reread) =
        before ++ [Template.mapStringsOfField Text.reread field] ++
          (next :: fields).map (Template.mapStringsOfField Text.reread) := by
      rw [List.map_cons, List.append_assoc, List.singleton_append]
    have comma : ",".toList = [','] := rfl
    rw [made, List.map_cons, List.map_cons, List.map_cons, List.map_cons,
      toList_intercalate_cons_cons, List.append_assoc, List.append_assoc, comma, List.singleton_append]
    refine .more name colon (any_name_eq_false distinct) value
      (skipBlank_of_visible (by decide) (by decide)) ?_
    rw [read]
    exact others

end Notation

/-! ### Templates -/

theorem Template.Expressible.spells {t : Template} (h : t.Expressible) : ∀ rest, Stops rest →
    SpellsExpression (t.display.toList ++ rest) (.computed (t.mapStrings Text.reread)) rest := by
  induction h with
  | empty =>
    intro rest stops
    exact .empty (readName_takes_printed (by decide) fun _ _ eq => stops.noNameChar eq)
  | slot fits named =>
    intro rest stops
    exact .slot (readSlot_takes_printed fits named stops)
  | @record tag fields isTag notEmpty notNull distinct names computed fixed ih =>
    intro rest stops
    have each : ∀ field ∈ fields, isName field.name = true ∧ SpellsField field := by
      intro field mem
      refine ⟨names field mem, ?_⟩
      cases field with
      | computed name t => exact ⟨t.display, _, rfl, rfl, ih name t mem⟩
      | fixed name v => exact ⟨v.display, _, rfl, rfl, (fixed name v mem).spells⟩
    have inside := SpellsFields.printed tag rest fields [] each distinct
    have stop : ∀ tail c tail', ' ' :: tail = c :: tail' → isNameChar c = false := by
      rintro _ _ _ ⟨⟩
      decide
    have space : " ".toList = [' '] := rfl
    rw [mapStrings, mapStringsOfFields_eq_map, display, displayFields_eq_map, String.toList_append,
      String.toList_append, space, List.append_assoc, List.append_assoc, List.singleton_append]
    refine .record (readName_takes_printed isTag (stop _)) notEmpty notNull ?_ inside
    rw [skipBlank_space, Value.braced, String.toList_append, String.toList_append,
      List.append_assoc, List.append_assoc]
    exact skipBlank_of_visible (by decide) (by decide)
  | @list heads tails allHeads allTails ihHeads ihTails =>
    intro rest stops
    rw [mapStrings, mapStringsOfEach_eq_map, mapStringsOfEach_eq_map]
    cases tails with
    | nil =>
      have inside := SpellsItems.printed .bracket rest heads ihHeads
      refine .list ?_ inside (Expression.ofItems?_computed _ heads)
      rw [display, displayEach_eq_map, String.toList_append, String.toList_append, List.append_assoc,
        List.append_assoc]
      exact skipBlank_of_visible (by decide) (by decide)
    | cons tail tails =>
      have second := SpellsItems.printed .bracket rest (tail :: tails) ihTails
      have first := SpellsItems.printed .semicolon (' ' :: ((", ".intercalate
        ((tail :: tails).map display)).toList ++ ']' :: rest)) heads ihHeads
      refine .tailed ?_ first (second.of_skipBlank_eq (skipBlank_space _))
        (Expression.ofHeadsAndTails?_computed _ heads (tail :: tails))
      have layout : (display (.list heads (tail :: tails))).toList ++ rest =
          '[' :: ((", ".intercalate (heads.map display)).toList ++ ';' :: ' ' ::
            ((", ".intercalate ((tail :: tails).map display)).toList ++ ']' :: rest)) := by
        rw [display, displayEach_eq_map, displayEach_eq_map]
        · simp only [String.toList_append, List.append_assoc]
          rfl
        · exact nofun
      rw [layout]
      exact skipBlank_of_visible (by decide) (by decide)

/-! ### Rules -/

namespace Notation

theorem toList_displayElements_cons (element : Element) (elements : List Element) :
    (Rule.displayElements (element :: elements)).toList =
      ' ' :: (element.display.toList ++ (Rule.displayElements elements).toList) := by
  simp only [Rule.displayElements, List.map_cons, String.toList_join, List.flatMap_cons,
    String.toList_append, List.append_assoc]
  rfl

/-- Behind an element there is a space, whether more elements follow or the arrow. -/
theorem eq_space_of_displayElements {elements : List Element} {tail tail' : List Char} {c : Char}
    (h : (Rule.displayElements elements).toList ++ ' ' :: tail = c :: tail') : c = ' ' := by
  cases elements with
  | nil =>
    cases h
    rfl
  | cons element elements =>
    rw [toList_displayElements_cons] at h
    cases h
    rfl

/-- Elements that are printed one by one are read one by one. -/
theorem SpellsElements.printed (rest : List Char) : ∀ elements : List Element,
    (∀ element ∈ elements, element.Expressible) →
      SpellsElements ((Rule.displayElements elements).toList ++ ' ' :: '=' :: '>' :: rest) elements rest
  | [], _ => .arrow ((skipBlank_space _).trans (skipBlank_of_visible (by decide) (by decide)))
  | element :: elements, all => by
    obtain ⟨first, allOthers⟩ := List.forall_mem_cons.mp all
    have others := SpellsElements.printed rest elements allOthers
    have stop : ∀ c tail, (Rule.displayElements elements).toList ++ ' ' :: '=' :: '>' :: rest = c :: tail →
        isNameChar c = false := by
      intro c tail h
      rw [eq_space_of_displayElements h]
      decide
    rw [toList_displayElements_cons, List.cons_append, List.append_assoc]
    exact .more (readElement_takes_of_skipBlank_eq (skipBlank_space _) (readElement_takes_printed first stop))
      others

end Notation

/-- The rule with its fixed strings as they are read back from its notation. -/
def Rule.reread (rule : Rule) : Rule :=
  rule.mapStrings Text.reread

theorem Rule.Expressible.spells {rule : Rule} (h : rule.Expressible) (rest : List Char) :
    SpellsRule (rule.written.toList ++ rest) rule.reread rest := by
  have template := h.template.spells (';' :: rest) (stops_cons (by decide) (by decide) rest)
  have elements := SpellsElements.printed
    (' ' :: (rule.template.display.toList ++ ';' :: rest)) rule.rhs h.rhs
  have stop : ∀ tail c tail', ' ' :: tail = c :: tail' → isNameChar c = false := by
    rintro _ _ _ ⟨⟩
    decide
  have layout : rule.written.toList ++ rest = rule.name.toList ++ ' ' :: ':' :: ':' :: '=' ::
      ((displayElements rule.rhs).toList ++ ' ' :: '=' :: '>' :: ' ' ::
        (rule.template.display.toList ++ ';' :: rest)) := by
    simp only [written, String.toList_append, List.append_assoc]
    rfl
  rw [layout]
  refine .rule (readName_takes_printed h.name (stop _)) ?_ elements
    (template.of_skipBlank_eq (skipBlank_space _)) (skipBlank_of_visible (by decide) (by decide))
  exact (skipBlank_space _).trans (skipBlank_of_visible (by decide) (by decide))

theorem Notation.spellsRules_written : ∀ {rules : List Rule}, (∀ rule ∈ rules, rule.Expressible) →
    SpellsRules (String.join (rules.map fun rule => rule.written ++ "\n")).toList
      (rules.map Rule.reread)
  | [], _ => .done rfl
  | rule :: rules, all => by
    obtain ⟨first, allOthers⟩ := List.forall_mem_cons.mp all
    have others := spellsRules_written allOthers
    have newline : "\n".toList = ['\n'] := rfl
    rw [String.toList_join] at others
    rw [List.map_cons, List.map_cons, String.toList_join, List.flatMap_cons, String.toList_append,
      newline, List.append_assoc, List.singleton_append]
    exact .more (first.spells _) (others.of_skipBlank_eq (skipBlank_newline _))

end ReversibleGrammar
