/-
# Round trips

Where no rule loses anything, a tree that derives a value also realizes it, so the
sentence is found again. A rule loses nothing if its template names every position
but literals, which are found again by themselves, is regular, and names no
attributes; and in the tree no tail of a list may have built an empty one, for these
are not taken apart. A class of words must realize what it read by the same word, which
that of text spans does.

Key definitions: `Rule.Lossless`, `Grammar.FullTails`.
Key theorems: `Grammar.Derives.realizes`, `Parser.realize_recovers_sentence`.
-/
import ReversibleGrammar.Proofs.Parser.Realizing
import ReversibleGrammar.Proofs.Template.Recovery

namespace ReversibleGrammar

/-- The template of the rule lets a value be told back: it is regular, names no
attributes, and has a slot for every position but those of literals. -/
structure Rule.Lossless (rule : Rule) : Prop where
  regular : rule.template.Regular
  attributeFree : rule.template.AttributeFree
  named : ∀ {i : Nat} {element : Element}, rule.rhs[i]? = some element →
    element.literal? = none → i ∈ rule.template.indexes

instance (rule : Rule) : Decidable rule.Lossless :=
  decidable_of_iff (rule.template.Regular ∧ rule.template.AttributeFree ∧
      ∀ i : Fin rule.rhs.length, rule.rhs[i].literal? = none → i.val ∈ rule.template.indexes) <| by
    refine ⟨fun ⟨regular, plain, named⟩ => ⟨regular, plain, fun here notLiteral => ?_⟩, fun h =>
      ⟨h.regular, h.attributeFree, fun i => h.named (List.getElem?_eq_getElem i.isLt)⟩⟩
    obtain ⟨inside, rfl⟩ := List.getElem?_eq_some_iff.mp here
    exact named ⟨_, inside⟩ notLiteral

namespace Grammar

mutual

/-- No tail of a list builds an empty one anywhere in the derivation. -/
inductive FullTails (g : Grammar) : Tree → String → Prop
  | node {symbol : String} {position : Nat} {rule : Rule} {forest : Forest} {children : List Value}
      (ruleAt : (g.rulesOf symbol)[position]? = some rule)
      (derived : g.DerivesEach forest rule.rhs children)
      (full : rule.template.FullTails children)
      (each : g.FullTailsEach forest rule.rhs) : g.FullTails (.node position forest) symbol

/-- The same of the trees of a forest. -/
inductive FullTailsEach (g : Grammar) : Forest → List Element → Prop
  | nil : g.FullTailsEach .nil []
  | word {terminal : Terminal} {word : Word} {rest : Forest} {elements : List Element}
      (each : g.FullTailsEach rest elements) :
      g.FullTailsEach (.word word rest) (.terminal terminal :: elements)
  | tree {name : String} {head : Tree} {rest : Forest} {elements : List Element}
      (first : g.FullTails head name) (each : g.FullTailsEach rest elements) :
      g.FullTailsEach (.tree head rest) (.symbol name :: elements)

end

variable {g : Grammar}

/-- Where all classes restore, a terminal that is given what it read of a word, or nothing
if it is a literal, produces the word again. -/
theorem realize_of_read (restoring : ∀ c ∈ g.classes, c.Restoring) {terminal : Terminal}
    (occurs : .terminal terminal ∈ g.elements) {word : Word} {given : Option Fragment}
    (accepted : terminal.accepts word = true)
    (restored : ∀ fragment, given = some fragment → fragment = .value (terminal.read word))
    (named : (Element.terminal terminal).literal? = none → given ≠ none) :
    terminal.realize given = .ok word := by
  cases terminal with
  | literal token =>
    obtain rfl := Terminal.accepts_literal_iff.mp accepted
    cases given with
    | none => rfl
    | some fragment =>
      rw [restored fragment rfl]
      simp [Terminal.realize, Terminal.read, Terminal.realizeValue, Terminal.realizeLiteral]
  | ofClass c =>
    obtain ⟨fragment, rfl⟩ := Option.ne_none_iff_exists'.mp (named rfl)
    rw [restored fragment rfl, Terminal.realize_value, Terminal.realizeValue_ofClass_eq_ok_iff]
    exact restoring c (mem_classes.mpr occurs) word accepted

/-- Of what a rule without losses built, the template gives every position its child,
or nothing if it is a literal. -/
theorem exists_restoring {rule : Rule} (lossless : rule.Lossless) {children : List Value}
    {value : Value} (sameLength : children.length = rule.rhs.length)
    (full : rule.template.FullTails children) (built : rule.template.build children = .ok value) :
    ∃ flat, rule.template.decompose rule.rhs.length (.value value) = .ok flat ∧
      flat.Restores children ∧ ∀ (i : Nat) element, rule.rhs[i]? = some element →
        element.literal? = none → flat.get? i ≠ none := by
  obtain ⟨flat, apart, restores⟩ :=
    Template.exists_decompose_of_build lossless.regular lossless.attributeFree full built
  rw [sameLength] at apart
  refine ⟨flat, apart, restores, fun i element here notLiteral unset => ?_⟩
  exact (Template.get?_eq_none_iff apart).mp unset (lossless.named here notLiteral)

mutual

/-- A derivation by rules that lose nothing is a realization of its value. -/
theorem Derives.realizes (lossless : ∀ rule ∈ g.rules, rule.Lossless)
    (restoring : ∀ c ∈ g.classes, c.Restoring) :
    ∀ {tree : Tree} {symbol : String} {value : Value}, g.Derives tree symbol value →
      g.FullTails tree symbol → g.Realizes tree symbol (.value value)
  | _, _, _, .node ruleAt derived built, .node ruleAt' derived' full each => by
    cases ruleAt.symm.trans ruleAt'
    obtain rfl := derived.values_unique derived'
    have member := mem_rules_of_ruleAt ruleAt
    obtain ⟨flat, apart, restores, named⟩ :=
      exists_restoring (lossless _ member) derived.length_eq full built
    exact .node ruleAt apart (derived.realizes lossless restoring each
      (rhs_subset_elements member) (Template.width_of_decompose apart) restores named)

theorem DerivesEach.realizes (lossless : ∀ rule ∈ g.rules, rule.Lossless)
    (restoring : ∀ c ∈ g.classes, c.Restoring) :
    ∀ {forest : Forest} {elements : List Element} {values : List Value}
      {places : List (Option Fragment)}, g.DerivesEach forest elements values →
      g.FullTailsEach forest elements → elements ⊆ g.elements → places.length = elements.length →
      Assignment.Restores values ⟨places⟩ →
      (∀ (i : Nat) element, elements[i]? = some element → element.literal? = none →
        Assignment.get? ⟨places⟩ i ≠ none) → g.RealizesEach forest elements places
  | .nil, [], [], places, .nil, .nil, _, width, _, _ => by
    obtain rfl := List.length_eq_zero_iff.mp width
    exact .nil
  | .word word _, .terminal terminal :: _, _ :: _, given :: _, .word accepted derived, .word each,
      sub, width, restores, named => by
    obtain ⟨occurs, others⟩ := List.cons_subset.mp sub
    have first : ∀ fragment, given = some fragment → fragment = .value (terminal.read word) := by
      intro fragment set
      obtain ⟨child, isChild, same⟩ := restores 0 fragment set
      cases isChild
      exact same
    exact .word (realize_of_read restoring occurs accepted first (named 0 _ rfl))
      (derived.realizes lossless restoring each others (Nat.succ.inj width)
        (fun i => restores (i + 1)) (fun i => named (i + 1)))
  | .tree _ _, .symbol _ :: _, child :: _, given :: _, .tree derives derived, .tree full each, sub,
      width, restores, named => by
    obtain ⟨fragment, set⟩ := Option.ne_none_iff_exists'.mp (named 0 _ rfl rfl)
    obtain ⟨_, isChild, rfl⟩ := restores 0 fragment set
    cases isChild
    obtain rfl : given = some (.value child) := set
    exact .tree (derives.realizes lossless restoring full)
      (derived.realizes lossless restoring each (List.cons_subset.mp sub).2 (Nat.succ.inj width)
        (fun i => restores (i + 1)) (fun i => named (i + 1)))

end

end Grammar

namespace Parser

/-- With rules that lose nothing and classes that restore their words, the sentence that a
value was derived from is among those that the value is realized by, if realizing it comes
to no fault. -/
theorem realize_recovers_sentence (p : Parser) (lossless : ∀ rule ∈ p.grammar.rules, rule.Lossless)
    (restoring : ∀ c ∈ p.grammar.classes, c.Restoring) {tree : Tree} {symbol : String} {value : Value} (derives : p.grammar.Derives tree symbol value)
    (full : p.grammar.FullTails tree symbol) :
    (p.realize symbol value).fault? ≠ none ∨ tree.words ∈ (p.realize symbol value).successes := by
  by_cases noFault : (p.realize symbol value).fault? = none
  · right
    exact (enumerates_realize noFault).mem_iff.mpr ⟨tree, derives.realizes lossless restoring full, rfl⟩
  · left
    exact noFault

/-- A grammar of lists of texts and numbers: the second rule of `s` takes the items after
the first as its tail. -/
def textsParser : Parser where
  grammar := ⟨[
    ⟨"s", [.symbol "t"], .list [.slot 0 none] []⟩,
    ⟨"s", [.symbol "t", .terminal (.literal ","), .symbol "s"], .list [.slot 0 none] [.slot 2 none]⟩,
    ⟨"t", [.terminal .textSpan], .slot 0 none⟩,
    ⟨"t", [.terminal (.literal "no"), .terminal (.ofClass .numeral)], .slot 1 none⟩]⟩
  complete := by decide
  maxDepth := 3

/-- A text of one token, as a tree of `t`. -/
def textTree (token : String) : Tree :=
  .node 0 (.word (.text [token]) .nil)

/-- A numbered item, as a tree of `t`. -/
def numberTree (token : String) : Tree :=
  .node 1 (.word (.marker "no") (.word (.text [token]) .nil))

/-- The trees of a list of a text and a number, one for each item. -/
def textsForest : Forest :=
  .tree (textTree "a") (.word (.marker ",") (.tree (.node 0 (.tree (numberTree "7") .nil)) .nil))

theorem realize_recovers_texts :
    (∀ rule ∈ textsParser.grammar.rules, rule.Lossless) ∧
      textsParser.grammar.classes = [.text, .numeral] ∧
      textsForest.words = [.text ["a"], .marker ",", .marker "no", .text ["7"]] ∧
      textsForest.words ∈ (textsParser.realize "s"
        (.list [.word (.text ["a"]), .str "7"])).successes := by
  have lossless : ∀ rule ∈ textsParser.grammar.rules, rule.Lossless := by decide
  have isClasses : textsParser.grammar.classes = [.text, .numeral] := rfl
  have restoring : ∀ c ∈ textsParser.grammar.classes, c.Restoring := by
    rw [isClasses]
    exact List.forall_mem_cons.mpr
      ⟨WordClass.text_restoring, List.forall_mem_singleton.mpr WordClass.numeral_restoring⟩
  have text : textsParser.grammar.Derives (textTree "a") "t" (.word (.text ["a"])) :=
    .node rfl (.word rfl .nil) rfl
  have fullText : textsParser.grammar.FullTails (textTree "a") "t" :=
    .node rfl (.word rfl .nil) (by simp [Template.FullTails, Template.parts, Template.tails])
      (.word .nil)
  have number : textsParser.grammar.Derives (numberTree "7") "t" (.str "7") :=
    .node rfl (.word rfl (.word rfl .nil)) rfl
  have fullNumber : textsParser.grammar.FullTails (numberTree "7") "t" :=
    .node rfl (.word rfl (.word rfl .nil))
      (by simp [Template.FullTails, Template.parts, Template.tails]) (.word (.word .nil))
  have last : textsParser.grammar.DerivesEach (.tree (numberTree "7") .nil) [.symbol "t"] _ :=
    .tree number .nil
  have both : textsParser.grammar.DerivesEach textsForest
      [.symbol "t", .terminal (.literal ","), .symbol "s"]
      [.word (.text ["a"]), .word (.marker ","), .list [.str "7"]] :=
    .tree text (.word rfl (.tree (.node rfl last rfl) .nil))
  have derives : textsParser.grammar.Derives (.node 1 textsForest) "s" _ := .node rfl both rfl
  have full : textsParser.grammar.FullTails (.node 1 textsForest) "s" := by
    refine .node rfl both ?_ (.tree fullText (.word (.tree (.node rfl last ?_ ?_) .nil)))
    · simp [Template.FullTails, Template.parts, Template.partsOfEach, Template.tails,
        Template.build, Template.pick]
    · simp [Template.FullTails, Template.parts, Template.partsOfEach, Template.tails]
    · exact .tree fullNumber .nil
  refine ⟨lossless, isClasses, rfl, ?_⟩
  exact (realize_recovers_sentence textsParser lossless restoring derives full).resolve_left
    fun fault => fault rfl

end Parser
end ReversibleGrammar
