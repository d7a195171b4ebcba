/-
# The language of a symbol

Realizing stays inside the grammar. The tree by which a sentence was realized is made
of rules and of words, and its symbols are nested no deeper than the budget of the
parser allows. Terminals accept these words, if the classes of words accept what they
realize; so the sentence belongs to the symbol's language, whatever value was asked for
and whatever the templates are. A parse of it therefore finds something, unless it
comes to a fault.

Which value the tree derives is known where no template names an attribute and the
classes read what was asked of them: the one that was asked for, with the marker of a
literal in place of some nulls and of strings of its token. Nothing else can change on
the way through the words.

Key theorems: `Parser.realize_stays_in_language`, `Parser.realize_drifts_to_literals`.
-/
import ReversibleGrammar.Proofs.Parser.ReadingBack

namespace ReversibleGrammar
namespace Parser

/-- Whatever a symbol realizes a value by, parsing it as that symbol finds some value or
comes to a fault, if each class of words accepts what it realizes. -/
theorem realize_stays_in_language (p : Parser) (matching : ∀ c ∈ p.grammar.classes, c.Matching)
    {symbol : String} {value : Value} {words : List Word} (found : words ∈ (p.realize symbol value).successes) :
    (p.parse symbol words).fault? ≠ none ∨ (p.parse symbol words).successes ≠ [] := by
  obtain ⟨tree, realizes, rfl⟩ := exists_realizes_of_mem_realize found
  by_cases noFault : (p.parse symbol tree.words).fault? = none
  · right
    obtain ⟨other, parsed, -⟩ := exists_mem_parse_of_fits noFault (realizes.fits matching)
    exact List.ne_nil_of_mem parsed
  · left
    exact noFault

/-- A grammar in which an attribute is taken of a record, and the record's other field is
left open when that is realized. -/
def projectingParser : Parser where
  grammar := ⟨[
    ⟨"s", [.symbol "a", .terminal (.ofClass .numeral)],
      .record "S" [.computed "k" (.slot 0 (some "k")), .computed "n" (.slot 1 none)]⟩,
    ⟨"a", [.terminal (.literal "x"), .symbol "b"],
      .record "A" [.computed "k" (.slot 0 none), .computed "l" (.slot 1 none)]⟩,
    ⟨"b", [.terminal (.literal "y")], .empty⟩,
    ⟨"b", [], .empty⟩]⟩
  complete := by decide
  maxDepth := 2

/-- No sentence is parsed as a record with null, and what it is realized by is parsed. -/
theorem realize_projecting_stays :
    let value : Value := .record "S" (FieldMap.ofList [("k", .null), ("n", .str "7")])
    let sentence : List Word := [.marker "x", .marker "y", .text ["7"]]
    projectingParser.grammar.classes = [.numeral] ∧
      sentence ∈ (projectingParser.realize "s" value).successes ∧
      (projectingParser.parse "s" sentence).successes ≠ [] := by
  intro value sentence
  have isClasses : projectingParser.grammar.classes = [.numeral] := rfl
  have matching : ∀ c ∈ projectingParser.grammar.classes, c.Matching := by
    rw [isClasses]
    exact List.forall_mem_singleton.mpr WordClass.numeral_matching
  have found : sentence ∈ (projectingParser.realize "s" value).successes := by decide
  refine ⟨isClasses, found, ?_⟩
  exact (realize_stays_in_language projectingParser matching found).resolve_left
    fun fault => fault rfl

/-- **Realizing drifts only to literals.** With regular templates that name no attributes,
and classes that accept what they realize and read it as what was asked for, each sentence
of a value is derived by a tree that is no higher than the budget, and its value is the
one asked for up to `Value.Drifts`. -/
theorem realize_drifts_to_literals (p : Parser)
    (matching : ∀ c ∈ p.grammar.classes, c.Matching) (exact : ∀ c ∈ p.grammar.classes, c.Exact)
    (regular : ∀ rule ∈ p.grammar.rules, rule.template.Regular)
    (plain : ∀ rule ∈ p.grammar.rules, rule.template.AttributeFree) {symbol : String} {value : Value}
    {words : List Word} (found : words ∈ (p.realize symbol value).successes) :
    ∃ tree other, p.grammar.Derives tree symbol other ∧ tree.words = words ∧
      tree.height ≤ p.maxDepth + 1 ∧ Value.Drifts value other := by
  obtain ⟨tree, realizes, whole, low⟩ := exists_low_realizes_of_mem_realize found
  obtain ⟨other, derives, drifts⟩ :=
    realizes.exists_derives (Grammar.keeps_drifts exact regular) matching plain
  exact ⟨tree, other, derives, whole, low, drifts⟩

/-- A grammar in which a literal is an item of a list, and another one a field of a record
in the list's tail. -/
def greetingParser : Parser where
  grammar := ⟨[
    ⟨"s", [.terminal (.literal "hello"), .symbol "names"], .list [.slot 0 none] [.slot 1 none]⟩,
    ⟨"names", [.symbol "name"], .list [.slot 0 none] []⟩,
    ⟨"name", [.terminal (.literal "dear"), .terminal .textSpan, .terminal (.ofClass .numeral)],
      .record "Name" [.computed "address" (.slot 0 none), .computed "name" (.slot 1 none),
        .computed "number" (.slot 2 none)]⟩]⟩
  complete := by decide
  maxDepth := 2

/-- A greeting in which null and a string stand for the two literals. -/
def looseGreeting : Value :=
  .list [.null, .record "Name" (FieldMap.ofList
    [("address", .str "dear"), ("name", .word (.text ["Ann"])), ("number", .str "7")])]

theorem realize_greeting_drifts :
    let sentence : List Word := [.marker "hello", .marker "dear", .text ["Ann"], .text ["7"]]
    (∀ rule ∈ greetingParser.grammar.rules, rule.template.Regular ∧ rule.template.AttributeFree) ∧
      greetingParser.grammar.classes = [.text, .numeral] ∧
      sentence ∈ (greetingParser.realize "s" looseGreeting).successes ∧
      ∃ tree other, greetingParser.grammar.Derives tree "s" other ∧
        tree.words = sentence ∧ tree.height ≤ 3 ∧ Value.Drifts looseGreeting other := by
  intro sentence
  have isClasses : greetingParser.grammar.classes = [.text, .numeral] := rfl
  have matching : ∀ c ∈ greetingParser.grammar.classes, c.Matching := by
    rw [isClasses]
    exact List.forall_mem_cons.mpr
      ⟨WordClass.text_matching, List.forall_mem_singleton.mpr WordClass.numeral_matching⟩
  have exact : ∀ c ∈ greetingParser.grammar.classes, c.Exact := by
    rw [isClasses]
    exact List.forall_mem_cons.mpr
      ⟨WordClass.text_exact, List.forall_mem_singleton.mpr WordClass.numeral_exact⟩
  have regular : ∀ rule ∈ greetingParser.grammar.rules, rule.template.Regular := by decide
  have plain : ∀ rule ∈ greetingParser.grammar.rules, rule.template.AttributeFree := by decide
  have found : sentence ∈ (greetingParser.realize "s" looseGreeting).successes := by decide
  exact ⟨fun rule mem => ⟨regular rule mem, plain rule mem⟩, isClasses, found,
    realize_drifts_to_literals greetingParser matching exact regular plain found⟩

end Parser
end ReversibleGrammar
