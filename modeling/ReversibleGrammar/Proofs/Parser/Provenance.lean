/-
# Where words come from

Neither search makes words up, if no class of words does. A derived value is put together
of the words of its sentence and of what templates fix, for a terminal reads a value of its
word only and templates only move what they are given. The other way round a value is handed
down the tree in ever smaller pieces, a position that is given nothing realizes null, and at
the leaves a text span is one that was handed down, while a marker is written in the grammar.

Key definitions: `Word.ComesFrom`.
Key theorems: `Grammar.Derives.words_subset`, `Grammar.Realizes.comesFrom`,
`Parser.words_are_not_invented`.
-/
import ReversibleGrammar.Proofs.Parser.Parsing
import ReversibleGrammar.Proofs.Parser.Realizing
import ReversibleGrammar.Proofs.Template.Words

namespace ReversibleGrammar

/-- A marker is one of the literals, a text span one of the words that are held. -/
def Word.ComesFrom (literals : NameSet) (held : List Word) : Word → Prop
  | marker token => token ∈ literals
  | text tokens => .text tokens ∈ held

namespace Grammar

variable {g : Grammar} {ws : List Word}

/-! ### Deriving -/

/-- The value that a terminal reads holds no word but its own. -/
theorem words_read_subset (conserving : ∀ c ∈ g.classes, c.Conserving) {terminal : Terminal}
    (occurs : .terminal terminal ∈ g.elements) {word : Word}
    (accepted : terminal.accepts word = true) : (terminal.read word).words ⊆ [word] := by
  cases terminal with
  | literal token =>
    rw [Terminal.accepts_literal_iff.mp accepted]
    exact List.Subset.refl _
  | ofClass c => exact (conserving c (mem_classes.mpr occurs)).words_read word accepted

mutual

/-- A tree derives a value of its own words and of those that the templates fix. -/
theorem Derives.words_subset (conserving : ∀ c ∈ g.classes, c.Conserving)
    (ofFixed : ∀ rule ∈ g.rules, ∀ fixed ∈ rule.template.fixedValues, fixed.words ⊆ ws) :
    ∀ {tree : Tree} {symbol : String} {value : Value}, g.Derives tree symbol value →
      tree.words ⊆ ws → value.words ⊆ ws
  | _, _, _, .node ruleAt derived built, sub =>
    have isRule := mem_rules_of_ruleAt ruleAt
    Template.words_subset_of_build
      (derived.words_subset conserving ofFixed (rhs_subset_elements isRule) sub)
      (ofFixed _ isRule) built

theorem DerivesEach.words_subset (conserving : ∀ c ∈ g.classes, c.Conserving)
    (ofFixed : ∀ rule ∈ g.rules, ∀ fixed ∈ rule.template.fixedValues, fixed.words ⊆ ws) :
    ∀ {forest : Forest} {elements : List Element} {values : List Value},
      g.DerivesEach forest elements values → elements ⊆ g.elements → forest.words ⊆ ws →
      ∀ value ∈ values, value.words ⊆ ws
  | _, _, _, .nil, _, _ => by simp
  | _, _, _, .word accepted derived, inGrammar, sub => by
    obtain ⟨occurs, elements⟩ := List.cons_subset.mp inGrammar
    obtain ⟨first, others⟩ := List.cons_subset.mp sub
    refine List.forall_mem_cons.mpr
      ⟨?_, derived.words_subset conserving ofFixed elements others⟩
    have own := words_read_subset conserving occurs accepted
    exact List.Subset.trans own (List.cons_subset.mpr ⟨first, List.nil_subset ws⟩)
  | _, _, _, .tree derives derived, inGrammar, sub => by
    obtain ⟨first, others⟩ := List.append_subset.mp sub
    have elements := (List.cons_subset.mp inGrammar).2
    exact List.forall_mem_cons.mpr ⟨Derives.words_subset conserving ofFixed derives first,
      derived.words_subset conserving ofFixed elements others⟩

end

/-! ### Realizing -/

/-- A terminal that produces a text span was given it. -/
theorem comesFrom_of_realize (conserving : ∀ c ∈ g.classes, c.Conserving) {terminal : Terminal}
    (occurs : .terminal terminal ∈ g.elements) {given : Option Fragment} {word : Word}
    (realizes : terminal.realize given = .ok word)
    (handed : ∀ fragment, given = some fragment → fragment.words ⊆ ws) :
    word.ComesFrom g.literals ws := by
  obtain ⟨value?, rfl, produces⟩ := Terminal.exists_handed_of_realize realizes
  cases terminal with
  | literal token =>
    rw [(Terminal.realizeValue_literal_eq_ok_iff.mp produces).1]
    exact mem_literals.mpr (mem_elements.mp occurs)
  | ofClass c =>
    rw [Terminal.realizeValue_ofClass_eq_ok_iff] at produces
    obtain ⟨isText, v, rfl, inValue⟩ :=
      (conserving c (mem_classes.mpr occurs)).of_realize value? word produces
    cases word with
    | marker token => cases isText
    | text tokens => exact handed (.value v) rfl inValue

mutual

/-- The text spans of a tree are words of what it realizes, its markers literals. -/
theorem Realizes.comesFrom (conserving : ∀ c ∈ g.classes, c.Conserving) :
    ∀ {tree : Tree} {symbol : String} {fragment : Fragment},
    g.Realizes tree symbol fragment → fragment.words ⊆ ws →
      ∀ word ∈ tree.words, word.ComesFrom g.literals ws
  | _, _, _, .node ruleAt apart realized, sub => by
    refine realized.comesFrom conserving (rhs_subset_elements (mem_rules_of_ruleAt ruleAt)) ?_
    intro i given set
    exact List.Subset.trans (Template.words_subset_of_decompose apart i given set) sub

theorem RealizesEach.comesFrom (conserving : ∀ c ∈ g.classes, c.Conserving) :
    ∀ {forest : Forest} {elements : List Element} {places : List (Option Fragment)},
      g.RealizesEach forest elements places → elements ⊆ g.elements →
      (∀ i given, Assignment.get? ⟨places⟩ i = some given → given.words ⊆ ws) →
      ∀ word ∈ forest.words, word.ComesFrom g.literals ws
  | _, _, _, .nil, _, _ => by simp [Forest.words]
  | _, _, _, .word realizes realized, inGrammar, handed => by
    obtain ⟨occurs, elements⟩ := List.cons_subset.mp inGrammar
    exact List.forall_mem_cons.mpr ⟨comesFrom_of_realize conserving occurs realizes (handed 0),
      realized.comesFrom conserving elements fun i => handed (i + 1)⟩
  | .tree head _, .symbol name :: _, given :: _, .tree first realized, inGrammar, handed => by
    have elements := (List.cons_subset.mp inGrammar).2
    refine List.forall_mem_append.mpr
      ⟨?_, realized.comesFrom conserving elements fun i => handed (i + 1)⟩
    refine Realizes.comesFrom conserving first ?_
    -- An unset position was realized from null, in which no words occur.
    cases set : given with
    | none => exact List.nil_subset ws
    | some fragment => exact handed 0 fragment set

end

end Grammar

namespace Parser

/-- **No word is invented**, unless by a class of words. The markers of a sentence that
realizes a value are literals of the grammar and its text spans occur in the value. The words
of a value that a sentence is parsed into are words of the sentence, or occur in a value that
some template fixes. -/
theorem words_are_not_invented (p : Parser)
    (conserving : ∀ c ∈ p.grammar.classes, c.Conserving) (symbol : String) :
    (∀ value sentence, sentence ∈ (p.realize symbol value).successes →
      ∀ word ∈ sentence, word.ComesFrom p.grammar.literals value.words) ∧
    ∀ sentence value, value ∈ (p.parse symbol sentence).successes →
      ∀ word ∈ value.words, word ∈ sentence ∨
        ∃ rule ∈ p.grammar.rules, ∃ fixed ∈ rule.template.fixedValues, word ∈ fixed.words := by
  constructor
  · intro value sentence found
    obtain ⟨tree, realizes, rfl⟩ := exists_realizes_of_mem_realize found
    exact realizes.comesFrom conserving (List.Subset.refl _)
  · intro sentence value found word mem
    obtain ⟨tree, derives, rfl⟩ := exists_derives_of_mem_parse found
    let fixedWords : List Word := p.grammar.rules.flatMap fun rule =>
      rule.template.fixedValues.flatMap Value.words
    have ofFixed : ∀ rule ∈ p.grammar.rules, ∀ fixed ∈ rule.template.fixedValues,
        fixed.words ⊆ tree.words ++ fixedWords := by
      intro rule isRule fixed isFixed other occurs
      refine List.mem_append_right _ (List.mem_flatMap.mpr ⟨rule, isRule, ?_⟩)
      exact List.mem_flatMap.mpr ⟨fixed, isFixed, occurs⟩
    have sub := derives.words_subset conserving ofFixed (List.subset_append_left _ _)
    refine (List.mem_append.mp (sub mem)).imp_right fun occurs => ?_
    obtain ⟨rule, isRule, occurs⟩ := List.mem_flatMap.mp occurs
    obtain ⟨fixed, isFixed, occurs⟩ := List.mem_flatMap.mp occurs
    exact ⟨rule, isRule, fixed, isFixed, occurs⟩

/-- The text span of one token that realizes a value, which is the span itself. -/
def realizeSingle : Option Value → Except String Word
  | some (.word (.text [token])) => .ok (.text [token])
  | some value => .error (value.display ++ " is not a single word")
  | none => .error "no word to realize"

/-- The class of the text spans of one token, which go through it unchanged. -/
def single : WordClass where
  name := "word"
  accepts w := w.isText && w.tokens.length == 1
  read := .word
  realize := realizeSingle

theorem single_conserving : single.Conserving where
  words_read w _ := List.Subset.refl [w]
  of_realize handed w realizes := by
    have isSpan : ∃ token, handed = some (.word (.text [token])) ∧ w = .text [token] := by
      change realizeSingle handed = .ok w at realizes
      unfold realizeSingle at realizes
      split at realizes
      · cases realizes
        exact ⟨_, rfl, rfl⟩
      · cases realizes
      · cases realizes
    obtain ⟨token, rfl, rfl⟩ := isSpan
    exact ⟨rfl, _, rfl, List.mem_cons_self⟩

/-- A grammar of sayings, with a manner of speaking that no sentence mentions. -/
def sayingParser : Parser where
  grammar := ⟨[
    ⟨"s", [.terminal (.ofClass single), .terminal (.literal "says"), .terminal .textSpan],
      .record "Say" [.computed "who" (.slot 0 none), .computed "what" (.slot 2 none),
        .fixed "how" (.list [.word (.text ["aloud"])])]⟩]⟩
  complete := by decide
  maxDepth := 0

theorem sayings_are_not_invented :
    let sentence := [.text ["Ann"], .marker "says", .text ["the", "ball"]]
    let value := .record "Say" (FieldMap.ofList
      [("who", .word (.text ["Ann"])), ("what", .word (.text ["the", "ball"])),
        ("how", .list [.word (.text ["aloud"])])])
    sayingParser.grammar.classes = [single, .text] ∧
    (sentence ∈ (sayingParser.realize "s" value).successes ∧
      ∀ word ∈ sentence, word.ComesFrom sayingParser.grammar.literals value.words) ∧
    value ∈ (sayingParser.parse "s" sentence).successes ∧
      ∀ word ∈ value.words, word ∈ sentence ∨
        ∃ rule ∈ sayingParser.grammar.rules, ∃ fixed ∈ rule.template.fixedValues,
          word ∈ fixed.words := by
  intro sentence value
  have isClasses : sayingParser.grammar.classes = [single, .text] := rfl
  have conserving : ∀ c ∈ sayingParser.grammar.classes, c.Conserving := by
    rw [isClasses]
    exact List.forall_mem_cons.mpr
      ⟨single_conserving, List.forall_mem_singleton.mpr WordClass.text_conserving⟩
  have realized : sentence ∈ (sayingParser.realize "s" value).successes := by decide
  have parsed : value ∈ (sayingParser.parse "s" sentence).successes := by decide
  obtain ⟨ofSentence, ofValue⟩ := words_are_not_invented sayingParser conserving "s"
  exact ⟨isClasses, ⟨realized, ofSentence value sentence realized⟩, parsed,
    ofValue sentence value parsed⟩

end Parser

end ReversibleGrammar
