/-
# Texts joined by a newline

No lexeme goes on over a newline unless it is quoted, and what is quoted is closed. So a
newline and more text behind a text change nothing about what is read off it: every
reader takes the same value and leaves as much more. Therefore the rules of two texts
with a newline between them are those of the first, then those of the second; and if the
second is refused, so are both together, with the same problem at the same place.

Key theorems: `Notation.SpellsExpression.append`, `Notation.SpellsRule.append`,
`Notation.readRules_join`.
-/
import ReversibleGrammar.Proofs.Notation.Rules

namespace ReversibleGrammar
namespace Notation

variable {s rest : List Char} (t : List Char)

/-! ### Lexemes -/

theorem readName_takes_append {name : String} (h : (readName s).Takes name rest) :
    (readName (s ++ '\n' :: t)).Takes name (rest ++ '\n' :: t) := by
  obtain ⟨c, tail, seen, start, rfl, rfl⟩ := readName_takes_iff.mp h
  have stop : isNameChar '\n' = false := by decide
  refine readName_takes_iff.mpr ⟨c, tail ++ '\n' :: t, skipBlank_append_of_eq_cons seen t, start, ?_, ?_⟩
  · rw [takeWhile_append_of_stop stop]
  · exact dropWhile_append_of_stop stop t tail

theorem readString_takes_append {text : String} (h : (readString s).Takes text rest) :
    (readString (s ++ '\n' :: t)).Takes text (rest ++ '\n' :: t) := by
  obtain ⟨inside, seen, isQuoted⟩ := readString_takes_iff.mp h
  exact readString_takes_iff.mpr ⟨_, skipBlank_append_of_eq_cons seen t, isQuoted.append _⟩

theorem readElement_takes_append {element : Element} (h : (readElement s).Takes element rest) :
    (readElement (s ++ '\n' :: t)).Takes element (rest ++ '\n' :: t) := by
  rw [readElement_takes_iff]
  rcases readElement_takes_iff.mp h with ⟨token, literal, same⟩ | ⟨isClass, same⟩ | ⟨name, isName, same⟩
  · obtain ⟨inside, seen, notEmpty, isQuoted⟩ := readLiteral_takes_iff.mp literal
    have seen' := skipBlank_append_of_eq_cons seen t
    exact .inl ⟨token, readLiteral_takes_iff.mpr ⟨_, seen', notEmpty, isQuoted.append _⟩, same⟩
  · obtain ⟨-, seen⟩ := readClass_takes_iff.mp isClass
    have seen' := skipBlank_append_of_eq_cons seen t
    exact .inr (.inl ⟨readClass_takes_iff.mpr ⟨rfl, seen'⟩, same⟩)
  · exact .inr (.inr ⟨name, readName_takes_append t isName, same⟩)

theorem attributeAfter_of_noDot (noDot : ∀ c tail, s ≠ '.' :: c :: tail) :
    attributeAfter s = (none, s) := by
  unfold attributeAfter
  split
  · rename_i c tail
    exact absurd rfl (noDot c tail)
  · rfl

/-- A newline starts no attribute and is part of none. -/
theorem attributeAfter_append (s : List Char) :
    attributeAfter (s ++ '\n' :: t) = ((attributeAfter s).1, (attributeAfter s).2 ++ '\n' :: t) := by
  -- Two characters decide whether an attribute follows, and the newline may be the second.
  rcases s with _ | ⟨c, _ | ⟨d, tail⟩⟩
  · exact attributeAfter_of_noDot (by rintro _ _ ⟨⟩)
  · have noDot : attributeAfter [c] = (none, [c]) := attributeAfter_of_noDot (by rintro _ _ ⟨⟩)
    rw [noDot]
    by_cases dot : c = '.'
    · subst dot
      rfl
    · apply attributeAfter_of_noDot
      rintro _ _ ⟨⟩
      exact dot rfl
  · have stop : isAttributeChar '\n' = false := by decide
    by_cases dot : c = '.'
    · subst dot
      simp only [List.cons_append, attributeAfter]
      split
      · rw [takeWhile_append_of_stop stop, dropWhile_append_of_stop stop]
      · rfl
    · have noDot : ∀ more, attributeAfter (c :: d :: more) = (none, c :: d :: more) := by
        intro more
        apply attributeAfter_of_noDot
        rintro _ _ ⟨⟩
        exact dot rfl
      rw [List.cons_append, List.cons_append, noDot, noDot]
      rfl

theorem readSlot_takes_append {template : Template} (h : (readSlot s).Takes template rest) :
    (readSlot (s ++ '\n' :: t)).Takes template (rest ++ '\n' :: t) := by
  obtain ⟨tail, seen, digits, fits, rfl, rfl⟩ := readSlot_takes_iff.mp h
  have stop : Char.isDigit '\n' = false := by decide
  refine readSlot_takes_iff.mpr ⟨tail ++ '\n' :: t, skipBlank_append_of_eq_cons seen t, ?_⟩
  rw [takeWhile_append_of_stop stop, dropWhile_append_of_stop stop, attributeAfter_append]
  exact ⟨digits, fits, rfl, rfl⟩

/-! ### Expressions -/

mutual

theorem SpellsExpression.append : ∀ {s rest : List Char} {e : Expression}, SpellsExpression s e rest →
    SpellsExpression (s ++ '\n' :: t) e (rest ++ '\n' :: t)
  | _, _, _, .slot slot => .slot (readSlot_takes_append t slot)
  | _, _, _, .string string => .string (readString_takes_append t string)
  | _, _, _, .empty name => .empty (readName_takes_append t name)
  | _, _, _, .null name => .null (readName_takes_append t name)
  | _, _, _, .record name notEmpty notNull brace fields =>
    .record (readName_takes_append t name) notEmpty notNull (skipBlank_append_of_eq_cons brace t)
      fields.append
  | _, _, _, .list bracket all made =>
    .list (skipBlank_append_of_eq_cons bracket t) all.append made
  | _, _, _, .tailed bracket first second made =>
    .tailed (skipBlank_append_of_eq_cons bracket t) first.append second.append made

theorem SpellsFields.append : ∀ {tag : String} {fields : List Field} {s rest : List Char}
    {template : Template}, SpellsFields tag fields s template rest →
    SpellsFields tag fields (s ++ '\n' :: t) template (rest ++ '\n' :: t)
  | _, _, _, _, _, .closed brace => .closed (skipBlank_append_of_eq_cons brace t)
  | _, _, _, _, _, .last isName colon fresh value brace =>
    .last (readName_takes_append t isName) (skipBlank_append_of_eq_cons colon t) fresh value.append
      (skipBlank_append_of_eq_cons brace t)
  | _, _, _, _, _, .more isName colon fresh value comma others =>
    .more (readName_takes_append t isName) (skipBlank_append_of_eq_cons colon t) fresh value.append
      (skipBlank_append_of_eq_cons comma t) others.append

theorem SpellsItems.append : ∀ {s rest : List Char} {items : List Expression} {closing : Closing},
    SpellsItems s items closing rest → SpellsItems (s ++ '\n' :: t) items closing (rest ++ '\n' :: t)
  | _, _, _, _, .closed mark => .closed (skipBlank_append_of_eq_cons mark t)
  | _, _, _, _, .last item mark => .last item.append (skipBlank_append_of_eq_cons mark t)
  | _, _, _, _, .more item comma others =>
    .more item.append (skipBlank_append_of_eq_cons comma t) others.append

end

/-! ### Rules -/

theorem SpellsElements.append {elements : List Element} (h : SpellsElements s elements rest) :
    SpellsElements (s ++ '\n' :: t) elements (rest ++ '\n' :: t) := by
  induction h with
  | arrow seen => exact .arrow (skipBlank_append_of_eq_cons seen t)
  | more first others ih => exact .more (readElement_takes_append t first) ih

theorem SpellsRule.append {rule : Rule} (h : SpellsRule s rule rest) :
    SpellsRule (s ++ '\n' :: t) rule (rest ++ '\n' :: t) := by
  cases h with
  | rule isName defines elements builds semicolon =>
    exact .rule (readName_takes_append t isName) (skipBlank_append_of_eq_cons defines t)
      (elements.append t) (builds.append t) (skipBlank_append_of_eq_cons semicolon t)

/-- **Joining texts.** Behind a text that spells rules, a newline and another text are read
as the other text is, with the rules of the first in front. -/
theorem readRules_join {rules : List Rule} (h : SpellsRules s rules) :
    readRules (s ++ '\n' :: t) = (readRules t).map (rules ++ ·) := by
  induction h with
  | @done s blank =>
    have same : skipBlank (s ++ '\n' :: t) = skipBlank t := skipBlank_append_of_eq_nil blank t
    rw [readRules_of_skipBlank_eq same]
    cases readRules t <;> rfl
  | @more s after rule rules first others ih =>
    rw [readRules_of_rule (first.append t), ih]
    cases readRules t <;> rfl

end Notation
end ReversibleGrammar
