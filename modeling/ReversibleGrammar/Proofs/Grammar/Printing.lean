/-
# Printing and reading grammars

An expressible grammar is printed to a text that is read again. The grammar that is read
has the same rules, symbol by symbol, except that the strings in fixed fields come back
as they were written. So where these strings are plain, nothing changes. And for a
grammar that was itself read off a text, nothing changes from the second time on: the
printed text of what was printed and read is read as it is.

Key theorems: `Grammar.ofText_written`, `Grammar.written_read_back`,
`Grammar.written_settles`.
-/
import Mathlib
import ReversibleGrammar.Proofs.Grammar.Loading
import ReversibleGrammar.Proofs.Grammar.Order
import ReversibleGrammar.Proofs.Notation.Printing

namespace ReversibleGrammar

/-- A rule whose fixed strings are plain is read back as it is. -/
theorem Rule.reread_eq_self_iff {rule : Rule} :
    rule.reread = rule ↔ ∀ s ∈ rule.template.fixedStrings, Text.Plain s := by
  unfold Rule.reread
  rw [Rule.mapStrings_eq_self_iff]
  simp only [Text.reread_eq_self_iff]

/-- What was read back once is read back as it is. -/
theorem Rule.reread_reread (rule : Rule) : rule.reread.reread = rule.reread := by
  rw [reread_eq_self_iff]
  intro s mem
  have strings : rule.reread.template.fixedStrings = rule.template.fixedStrings.map Text.reread :=
    Template.fixedStrings_mapStrings rule.template
  rw [strings] at mem
  obtain ⟨s', -, rfl⟩ := List.mem_map.mp mem
  exact Text.plain_reread s'

namespace Grammar

open Notation

variable {text : String} {g : Grammar}

/-- The printed text of an expressible grammar gives its sorted rules, as they are read back. -/
theorem ofText_written (expressible : g.Expressible) :
    ofText g.written = .ok ⟨g.ordered.map Rule.reread⟩ := by
  have all : ∀ rule ∈ g.ordered, rule.Expressible := fun rule mem =>
    expressible.rules rule (mem_ordered.mp mem)
  refine ofText_eq_ok_iff.mpr ⟨spellsRules_written all, ?_⟩
  simpa using ordered_ne_nil expressible.notEmpty

/-- Only the sorted rules are printed. -/
theorem written_congr {a b : Grammar} (same : a.ordered = b.ordered) : a.written = b.written := by
  unfold written
  rw [same]

theorem ordered_map_reread (g : Grammar) :
    (⟨g.ordered.map Rule.reread⟩ : Grammar).ordered = g.ordered.map Rule.reread := by
  have sorted := ordered_map (f := Rule.reread) (fun _ => rfl) ⟨g.ordered⟩
  rw [sorted, ordered_ordered]

theorem map_reread_ordered_eq_iff : g.ordered.map Rule.reread = g.ordered ↔
    ∀ rule ∈ g.rules, ∀ s ∈ rule.template.fixedStrings, Text.Plain s := by
  have each : g.ordered.map Rule.reread = g.ordered ↔ ∀ rule ∈ g.ordered, rule.reread = rule := by
    have atOnce := List.map_inj_left (f := Rule.reread) (g := id) (l := g.ordered)
    rwa [List.map_id] at atOnce
  rw [each]
  simp only [mem_ordered, Rule.reread_eq_self_iff]

/-- **Reading printed grammars.** The printed text of an expressible grammar with plain
fixed strings gives a grammar with the same rules in the same order. -/
theorem written_read_back (expressible : g.Expressible)
    (plain : ∀ rule ∈ g.rules, ∀ s ∈ rule.template.fixedStrings, Text.Plain s) :
    ∃ g', ofText g.written = .ok g' ∧ g'.ordered = g.ordered := by
  refine ⟨_, ofText_written expressible, ?_⟩
  rw [ordered_map_reread]
  exact map_reread_ordered_eq_iff.mpr plain

/-- A grammar with a literal to escape, an attribute, a fixed list and a list with a tail. -/
def greetings : Grammar :=
  ⟨[⟨"greeting", [.terminal (.literal "it's"), .symbol "name"],
      .record "Greeting" [.computed "who" (.slot 1 (some "first")),
        .fixed "notes" (.list [.str "a \"b\" \\", .null]),
        .computed "rest" (.list [.slot 0 none] [.slot 1 none])]⟩,
    ⟨"name", [.terminal .textSpan], .slot 0 none⟩]⟩

theorem greetings_expressible : greetings.Expressible := by
  have slot : ∀ index < 2, (Template.slot index none).Expressible := fun index small =>
    .slot (Nat.lt_trans small (by decide)) nofun
  have who : (Template.slot 1 (some "first")).Expressible := by
    refine .slot (by decide) ?_
    rintro _ ⟨⟩
    decide
  have rest : (Template.list [.slot 0 none] [.slot 1 none]).Expressible := by
    refine .list ?_ ?_
    · exact List.forall_mem_singleton.mpr (slot 0 (by decide))
    · exact List.forall_mem_singleton.mpr (slot 1 (by decide))
  have notes : (Value.list [.str "a \"b\" \\", .null]).Expressible := by
    refine .list (List.cons_ne_nil _ _) ?_
    exact List.forall_mem_cons.mpr ⟨.str _, List.forall_mem_singleton.mpr .null⟩
  refine ⟨List.cons_ne_nil _ _, List.forall_mem_cons.mpr ⟨⟨by decide, ?_, ?_⟩,
    List.forall_mem_singleton.mpr ⟨by decide, ?_, slot 0 (by decide)⟩⟩⟩
  · refine List.forall_mem_cons.mpr ⟨.literal (by decide) (by decide), ?_⟩
    exact List.forall_mem_singleton.mpr (.symbol (by decide))
  · refine .record (by decide) (by decide) (by decide) (by decide) (by decide) ?_ ?_
    · intro name t mem
      simp only [List.mem_cons, Field.computed.injEq, reduceCtorEq, false_or, List.not_mem_nil,
        or_false] at mem
      rcases mem with ⟨-, rfl⟩ | ⟨-, rfl⟩
      · exact who
      · exact rest
    · intro name v mem
      simp only [List.mem_cons, Field.fixed.injEq, reduceCtorEq, false_or, List.not_mem_nil,
        or_false] at mem
      obtain ⟨-, rfl⟩ := mem
      exact notes
  · exact List.forall_mem_singleton.mpr .textSpan

theorem greetings_read_back :
    ∃ g', ofText greetings.written = .ok g' ∧ g'.ordered = greetings.ordered :=
  written_read_back greetings_expressible (by decide)

/-- **Printing settles.** The printed text of a grammar that was read off a text is read
again, with the same symbols, right-hand sides and templates, only that the fixed strings
come back as they were written. From then on printing and reading change nothing. They
change nothing from the beginning just where all fixed strings are plain. -/
theorem written_settles (h : ofText text = .ok g) : ∃ g',
    ofText g.written = .ok g' ∧ g'.ordered = g.ordered.map Rule.reread ∧
    ofText g'.written = .ok g' ∧
    (g'.written = g.written ∧ g'.ordered = g.ordered ↔
      ∀ rule ∈ g.rules, ∀ s ∈ rule.template.fixedStrings, Text.Plain s) := by
  have expressible := expressible_of_ofText h
  have read := ofText_written expressible
  have sorted := ordered_map_reread g
  refine ⟨_, read, sorted, ?_, ?_⟩
  -- The grammar read back was read off a text too, so it is expressible in its turn.
  · have again := ofText_written (expressible_of_ofText read)
    have same : (g.ordered.map Rule.reread).map Rule.reread = g.ordered.map Rule.reread := by
      rw [List.map_map]
      exact List.map_congr_left fun rule _ => rule.reread_reread
    rw [again, sorted, same]
  · rw [← map_reread_ordered_eq_iff, sorted]
    constructor
    · exact And.right
    · intro same
      exact ⟨written_congr (sorted.trans same), same⟩

/-- A rule with a claim that is fixed. -/
def claiming (id : String) : Grammar :=
  ⟨[⟨"a", [.terminal (.literal "x")], .record "Claim" [.fixed "id" (.str id)]⟩]⟩

theorem claiming_settles : ∃ g',
    ofText (claiming "a\nb").written = .ok g' ∧
    g'.ordered = (claiming "a\nb").ordered.map Rule.reread ∧ ofText g'.written = .ok g' ∧
    (g'.written = (claiming "a\nb").written ∧ g'.ordered = (claiming "a\nb").ordered ↔
      ∀ rule ∈ (claiming "a\nb").rules, ∀ s ∈ rule.template.fixedStrings, Text.Plain s) :=
  written_settles (by cbv : ofText "a ::= 'x' => Claim \x7b id: \"a\nb\" \x7d;" = .ok (claiming "a\nb"))

/-- A newline in a fixed string is printed as an escape that is read back as a letter. -/
theorem claiming_changed :
    ofText "a ::= 'x' => Claim \x7b id: \"a\nb\" \x7d;" = .ok (claiming "a\nb") ∧
    ofText (claiming "a\nb").written = .ok (claiming "anb") ∧
    (claiming "anb").written ≠ (claiming "a\nb").written ∧
    (claiming "anb").ordered ≠ (claiming "a\nb").ordered := by
  have other : (claiming "anb").written ≠ (claiming "a\nb").written := by decide
  refine ⟨by cbv, by cbv, other, ?_⟩
  intro same
  exact other (written_congr same)

end Grammar
end ReversibleGrammar
