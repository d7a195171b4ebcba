/-
# The shape of all grammars that are read

Nothing is checked when rules are added to a grammar, but a text is checked while it is read.
So of a grammar that was read off a text more is known than of others: how its names are
spelled, that no record sets a field twice on any level of nesting, which terminals it has,
that its slots can be numbered by machine words, and what its fixed values are made of.

What can be written is closed under taking parts of templates, which carries the shape of a
whole template to every level. A text names no class of words but that of text spans, so the
classes of a grammar that was read keep all promises that are asked of classes elsewhere.

Key theorems: `Template.Expressible.of_mem_parts`, `Grammar.wellFormed_of_ofText`,
`Grammar.promises_of_ofText`.
-/
import Mathlib
import ReversibleGrammar.Proofs.Grammar.Loading
import ReversibleGrammar.Proofs.Grammar.WordClasses
import ReversibleGrammar.Proofs.Template.Parts

namespace ReversibleGrammar

open Notation

namespace Template

variable {t part : Template} {tag : String} {fields : List Field} {index : Nat} {attr : Option String}

/-- The parts of a template that can be written can be written as well. -/
theorem Expressible.of_mem_parts (h : t.Expressible) (mem : part ∈ t.parts) : part.Expressible := by
  induction h with
  | empty =>
    rw [List.mem_singleton.mp mem]
    exact .empty
  | slot fits named =>
    rw [List.mem_singleton.mp mem]
    exact .slot fits named
  | record isTag notEmpty notNull distinct names computed fixed ih =>
    rcases mem_parts_record.mp mem with same | ⟨name, t, isField, inside⟩
    · rw [same]
      exact .record isTag notEmpty notNull distinct names computed fixed
    · exact ih name t isField inside
  | list allHeads allTails ihHeads ihTails =>
    rcases mem_parts_list.mp mem with same | ⟨t, isHead, inside⟩ | ⟨t, isTail, inside⟩
    · rw [same]
      exact .list allHeads allTails
    · exact ihHeads t isHead inside
    · exact ihTails t isTail inside

/-- What is asked of a record template that can be written, apart from the templates in it. -/
theorem Expressible.of_record (h : (Template.record tag fields).Expressible) :
    (isName tag = true ∧ tag ≠ "empty" ∧ tag ≠ "null") ∧ (fields.map Field.name).Nodup ∧
      ∀ field ∈ fields, isName field.name = true ∧
        ∀ name value, field = .fixed name value → value.Expressible := by
  cases h with
  | record isTag notEmpty notNull distinct names computed fixed =>
    refine ⟨⟨isTag, notEmpty, notNull⟩, distinct, fun field mem => ⟨names field mem, ?_⟩⟩
    intro name value isFixed
    exact fixed name value (isFixed ▸ mem)

theorem Expressible.of_slot (h : (Template.slot index attr).Expressible) :
    index < 2 ^ 64 ∧ ∀ name, attr = some name → isAttribute name = true := by
  cases h with
  | slot fits named => exact ⟨fits, fun name isAttr => named name isAttr⟩

end Template

/-- An element that can be written is a symbol, a literal or the class of text spans. -/
theorem Element.Expressible.cases {element : Element} (h : element.Expressible) :
    (∃ name, element = .symbol name ∧ isName name = true) ∨
      (∃ token, element = .terminal (.literal token) ∧ token ≠ "" ∧ '\n' ∉ token.toList) ∨
      element = .terminal .textSpan := by
  cases h with
  | @literal token notEmpty onLine => exact .inr (.inl ⟨token, rfl, notEmpty, onLine⟩)
  | textSpan => exact .inr (.inr rfl)
  | @symbol name isSymbol => exact .inl ⟨name, rfl, isSymbol⟩

/-- The only class of words that can be written is that of text spans. -/
theorem Element.Expressible.eq_text {c : WordClass}
    (h : (Element.terminal (.ofClass c)).Expressible) : c = .text := by
  rcases h.cases with ⟨_, same, _⟩ | ⟨_, same, _⟩ | same
  · cases same
  · cases same
  · cases same
    rfl

namespace Grammar

/-- The classes of a grammar that a text gives match, are exact, restore and conserve. -/
theorem promises_of_ofText {text : String} {g : Grammar} (h : ofText text = .ok g) :
    ∀ c ∈ g.classes, c.Matching ∧ c.Exact ∧ c.Restoring ∧ c.Conserving := by
  intro c occurs
  obtain ⟨rule, isRule, inRule⟩ := mem_elements.mp (mem_classes.mp occurs)
  have written : rule.Expressible := (expressible_of_ofText h).rules rule isRule
  obtain rfl := (written.rhs _ inRule).eq_text
  exact ⟨WordClass.text_matching, WordClass.text_exact, WordClass.text_restoring,
    WordClass.text_conserving⟩

/-- **Whatever is read is well formed.** A grammar that a text gives has rules. Its symbols,
tags and fields are named by identifiers, and no tag is one of the two words that stand for
values. Every literal is a word that is not empty and stays on its line, and there is one
class of terminals. On every level of a template fields have distinct names, indexes fit 64
bits, and what is fixed is null, a string, or a list of such values that is not empty. -/
theorem wellFormed_of_ofText {text : String} {g : Grammar} (h : ofText text = .ok g) :
    g.rules ≠ [] ∧ ∀ rule ∈ g.rules,
      isName rule.name = true ∧
      (∀ element ∈ rule.rhs,
        (∃ name, element = .symbol name ∧ isName name = true) ∨
        (∃ token, element = .terminal (.literal token) ∧ token ≠ "" ∧ '\n' ∉ token.toList) ∨
        element = .terminal .textSpan) ∧
      (∀ tag fields, .record tag fields ∈ rule.template.parts →
        (isName tag = true ∧ tag ≠ "empty" ∧ tag ≠ "null") ∧ (fields.map Field.name).Nodup ∧
          ∀ field ∈ fields, isName field.name = true ∧
            ∀ name value, field = .fixed name value → value.Expressible) ∧
      ∀ index attr, .slot index attr ∈ rule.template.parts →
        index < 2 ^ 64 ∧ ∀ name, attr = some name → isAttribute name = true := by
  have all : g.Expressible := expressible_of_ofText h
  refine ⟨all.notEmpty, fun rule mem => ?_⟩
  have written : rule.Expressible := all.rules rule mem
  refine ⟨written.name, ?_, ?_, ?_⟩
  · exact fun element there => (written.rhs element there).cases
  · exact fun tag fields nested => (written.template.of_mem_parts nested).of_record
  · exact fun index attr nested => (written.template.of_mem_parts nested).of_slot

/-- A text with a record in a record, both with a field of the same name. -/
def nestedText : String :=
  "pair ::= 'A' claim => Pair \x7b id: Claim \x7b id: $1.id, why: [\"B\", null] \x7d, of: [$0; $1] \x7d;"

/-- The record inside. -/
def nestedRecord : Template :=
  .record "Claim" [.computed "id" (.slot 1 (some "id")), .fixed "why" (.list [.str "B", .null])]

/-- The grammar of that text. -/
def nestedGrammar : Grammar :=
  ⟨[⟨"pair", [.terminal (.literal "A"), .symbol "claim"],
    .record "Pair" [.computed "id" nestedRecord,
      .computed "of" (.list [.slot 0 none] [.slot 1 none])]⟩]⟩

/-- On both levels the fields have distinct names, and what is fixed inside can be written. -/
theorem nested_wellFormed : ofText nestedText = .ok nestedGrammar ∧
    ["id", "of"].Nodup ∧ ["id", "why"].Nodup ∧ (Value.list [.str "B", .null]).Expressible := by
  have read : ofText nestedText = .ok nestedGrammar := by cbv
  obtain ⟨-, rules⟩ := wellFormed_of_ofText read
  obtain ⟨-, -, records, -⟩ := rules _ (List.mem_singleton_self _)
  obtain ⟨-, outside, -⟩ := records _ _ (Template.mem_parts_self _)
  obtain ⟨-, inside, fields⟩ := records _ _
    (Template.parts_subset_record List.mem_cons_self (Template.mem_parts_self nestedRecord))
  have why := fields (.fixed "why" (.list [.str "B", .null])) (List.mem_cons_of_mem _ List.mem_cons_self)
  exact ⟨read, outside, inside, why.2 _ _ rfl⟩

end Grammar
end ReversibleGrammar
