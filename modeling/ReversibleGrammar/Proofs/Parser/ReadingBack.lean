/-
# Reading back what was realized

A tree that realizes a value is made of words that its terminals accept, provided that
the classes of words match, so it is read again: it derives some value if no template
fails. That is so if parsing the sentence comes to no fault, and also if none names an
attribute and the classes read what was asked of them; for lists are then read back as
lists. The value that is derived is the one that was realized exactly when the tree is
faithful: each terminal that is given something, on the way down from the root by
positions that are set, is given what it reads. Terminals are more lenient than that,
for a literal is also realized from null and from the string of its token, and then
another value may be read back.

Key definitions: `Grammar.Faithful`, `Grammar.Keeps`, `Parser.ReadsBack`.
Key theorems: `Grammar.Realizes.describes_iff`, `Grammar.Realizes.exists_derives`,
`Parser.realizations_read_back`.
-/
import ReversibleGrammar.Proofs.Parser.Parsing
import ReversibleGrammar.Proofs.Parser.Realizing
import ReversibleGrammar.Proofs.Template.Agreement

namespace ReversibleGrammar
namespace Grammar

mutual

/-- Wherever realizing the fragment by the tree gives something to a terminal, it is
what the terminal reads. -/
inductive Faithful (g : Grammar) : Tree → String → Fragment → Prop
  | node {symbol : String} {position : Nat} {rule : Rule} {forest : Forest} {fragment : Fragment}
      {flat : Assignment} (ruleAt : (g.rulesOf symbol)[position]? = some rule)
      (apart : rule.template.decompose rule.rhs.length fragment = .ok flat)
      (each : g.FaithfulEach forest rule.rhs flat.places) :
      g.Faithful (.node position forest) symbol fragment

/-- The same of a forest; what stands at a position that is unset does not matter. -/
inductive FaithfulEach (g : Grammar) : Forest → List Element → List (Option Fragment) → Prop
  | nil : g.FaithfulEach .nil [] []
  | word {terminal : Terminal} {given : Option Fragment} {word : Word} {rest : Forest}
      {elements : List Element} {places : List (Option Fragment)}
      (reads : ∀ fragment, given = some fragment → fragment = .value (terminal.read word))
      (each : g.FaithfulEach rest elements places) :
      g.FaithfulEach (.word word rest) (.terminal terminal :: elements) (given :: places)
  | tree {name : String} {given : Option Fragment} {head : Tree} {rest : Forest}
      {elements : List Element} {places : List (Option Fragment)}
      (first : ∀ fragment, given = some fragment → g.Faithful head name fragment)
      (each : g.FaithfulEach rest elements places) :
      g.FaithfulEach (.tree head rest) (.symbol name :: elements) (given :: places)

end

variable {g : Grammar}

theorem faithful_node_iff {symbol : String} {position : Nat} {rule : Rule} {forest : Forest}
    {fragment : Fragment} {flat : Assignment} (ruleAt : (g.rulesOf symbol)[position]? = some rule)
    (apart : rule.template.decompose rule.rhs.length fragment = .ok flat) :
    g.Faithful (.node position forest) symbol fragment ↔
      g.FaithfulEach forest rule.rhs flat.places := by
  refine ⟨fun h => ?_, fun each => .node ruleAt apart each⟩
  cases h with
  | node ruleAt' apart' each =>
    cases ruleAt.symm.trans ruleAt'
    cases apart.symm.trans apart'
    exact each

theorem faithfulEach_word_iff {terminal : Terminal} {given : Option Fragment} {word : Word}
    {rest : Forest} {elements : List Element} {places : List (Option Fragment)} :
    g.FaithfulEach (.word word rest) (.terminal terminal :: elements) (given :: places) ↔
      (∀ fragment, given = some fragment → fragment = .value (terminal.read word)) ∧
        g.FaithfulEach rest elements places :=
  ⟨fun | .word reads each => ⟨reads, each⟩, fun ⟨reads, each⟩ => .word reads each⟩

theorem faithfulEach_tree_iff {name : String} {given : Option Fragment} {head : Tree}
    {rest : Forest} {elements : List Element} {places : List (Option Fragment)} :
    g.FaithfulEach (.tree head rest) (.symbol name :: elements) (given :: places) ↔
      (∀ fragment, given = some fragment → g.Faithful head name fragment) ∧
        g.FaithfulEach rest elements places :=
  ⟨fun | .tree first each => ⟨first, each⟩, fun ⟨first, each⟩ => .tree first each⟩

/-! ### What is read back -/

/-- A partial record is no word, so a terminal that produced one from something was
given a value. -/
theorem describes_read_iff {terminal : Terminal} {word : Word} {fragment : Fragment}
    (realizes : terminal.realize (some fragment) = .ok word) :
    fragment.Describes Eq (terminal.read word) ↔ fragment = .value (terminal.read word) := by
  cases fragment with
  | value v => simp [Fragment.Describes]
  | fields part => cases realizes

mutual

/-- A tree that realizes a fragment and derives a value derives what the fragment
describes exactly if it is faithful. -/
theorem Realizes.describes_iff (regular : ∀ rule ∈ g.rules, rule.template.Regular) :
    ∀ {tree : Tree} {symbol : String} {fragment : Fragment} {value : Value},
      g.Realizes tree symbol fragment → g.Derives tree symbol value →
      (fragment.Describes Eq value ↔ g.Faithful tree symbol fragment)
  | _, _, _, _, .node ruleAt apart realized, .node ruleAt' derived built => by
    cases ruleAt.symm.trans ruleAt'
    have member := mem_rules_of_ruleAt ruleAt
    rw [faithful_node_iff ruleAt apart, ← realized.holds_iff regular derived]
    exact (Template.holds_iff_describes Value.tolerance_eq (regular _ member) apart built).symm

theorem RealizesEach.holds_iff (regular : ∀ rule ∈ g.rules, rule.template.Regular) :
    ∀ {forest : Forest} {elements : List Element} {places : List (Option Fragment)}
      {values : List Value}, g.RealizesEach forest elements places →
      g.DerivesEach forest elements values →
      (Assignment.Holds Eq values ⟨places⟩ ↔ g.FaithfulEach forest elements places)
  | _, _, _, _, .nil, .nil => iff_of_true (Assignment.holds_blank 0) .nil
  | _, _, _, _, .word realizes realized, .word accepted derived => by
    rw [Assignment.holds_cons_iff, faithfulEach_word_iff, realized.holds_iff regular derived]
    refine and_congr_left fun _ => forall₂_congr fun fragment set => ?_
    rw [set] at realizes
    exact describes_read_iff realizes
  | _, _, _, _, .tree first realized, .tree derives derived => by
    rw [Assignment.holds_cons_iff, faithfulEach_tree_iff, realized.holds_iff regular derived]
    refine and_congr_left fun _ => forall₂_congr fun fragment set => ?_
    rw [set] at first
    exact Realizes.describes_iff regular first derives

end

/-! ### That something is read back -/

/-- A terminal reads what it was given again, or its marker where it was given null or
the string of its token, if its class is exact. -/
theorem drifts_read (exact : ∀ c ∈ g.classes, c.Exact) {terminal : Terminal}
    (occurs : .terminal terminal ∈ g.elements) {word : Word} {v : Value}
    (realizes : terminal.realize (some (.value v)) = .ok word) :
    Value.Drifts v (terminal.read word) := by
  rw [Terminal.realize_value] at realizes
  cases terminal with
  | literal token =>
    obtain ⟨rfl, lenient⟩ := Terminal.realizeValue_literal_eq_ok_iff.mp realizes
    rcases lenient v rfl with rfl | rfl | rfl
    · exact .null token
    · exact .same _
    · exact .str token
  | ofClass c =>
    have reads : c.read word = v := exact c (mem_classes.mpr occurs) v word
      (Terminal.realizeValue_ofClass_eq_ok_iff.mp realizes)
    rw [Terminal.read, reads]
    exact .same v

/-- What is read back from a realized value is related to the value: terminals see to it,
and rules pass it on. -/
structure Keeps (g : Grammar) (R : Value → Value → Prop) : Prop where
  noShorter : ∀ {v w}, R v w → Template.NoShorter v w
  read : ∀ {terminal : Terminal}, .terminal terminal ∈ g.elements → ∀ {v : Value} {word : Word},
    terminal.realize (some (.value v)) = .ok word → R v (terminal.read word)
  build : ∀ rule ∈ g.rules, ∀ {v built : Value} {flat : Assignment} {children : List Value},
    rule.template.decompose rule.rhs.length (.value v) = .ok flat → flat.Holds R children →
      rule.template.build children = .ok built → R v built

theorem keeps_drifts (exact : ∀ c ∈ g.classes, c.Exact)
    (regular : ∀ rule ∈ g.rules, rule.template.Regular) : g.Keeps Value.Drifts where
  noShorter := Template.noShorter_of_tolerance Value.tolerance_drifts
  read occurs _ _ realizes := drifts_read exact occurs realizes
  build rule isRule _ _ _ _ apart holds built :=
    (Template.holds_iff_describes Value.tolerance_drifts (regular rule isRule) apart built).mp holds

/-- Whatever the templates are, what is read back from a list is a list, and no shorter. -/
theorem keeps_noShorter (exact : ∀ c ∈ g.classes, c.Exact) : g.Keeps Template.NoShorter where
  noShorter := id
  read occurs _ _ realizes :=
    Template.noShorter_of_tolerance Value.tolerance_drifts (drifts_read exact occurs realizes)
  build rule _ v built _ _ apart holds builds := by
    obtain ⟨other, builds', long⟩ := Template.exists_build id rule.template apart holds
    cases builds.symm.trans builds'
    exact long

mutual

/-- Without attributes, a tree that realizes a value derives one, which is related to it
by whatever the grammar keeps. -/
theorem Realizes.exists_derives {R : Value → Value → Prop} (keeps : g.Keeps R)
    (matching : ∀ c ∈ g.classes, c.Matching)
    (plain : ∀ rule ∈ g.rules, rule.template.AttributeFree) :
    ∀ {tree : Tree} {symbol : String} {v : Value}, g.Realizes tree symbol (.value v) →
      ∃ value, g.Derives tree symbol value ∧ R v value
  | _, _, _, .node ruleAt apart realized => by
    have member := mem_rules_of_ruleAt ruleAt
    have whole := Template.whole_of_decompose (plain _ member) apart
    obtain ⟨values, derived, holds⟩ := realized.exists_derivesEach keeps matching plain
      (rhs_subset_elements member) whole
    obtain ⟨value, built, -⟩ := Template.exists_build keeps.noShorter _ apart holds
    exact ⟨value, .node ruleAt derived built, keeps.build _ member apart holds built⟩

theorem RealizesEach.exists_derivesEach {R : Value → Value → Prop} (keeps : g.Keeps R)
    (matching : ∀ c ∈ g.classes, c.Matching)
    (plain : ∀ rule ∈ g.rules, rule.template.AttributeFree) :
    ∀ {forest : Forest} {elements : List Element} {places : List (Option Fragment)},
      g.RealizesEach forest elements places → elements ⊆ g.elements →
      Assignment.Whole ⟨places⟩ →
      ∃ values, g.DerivesEach forest elements values ∧ Assignment.Holds R values ⟨places⟩
  | _, _, _, .nil, _, _ => ⟨[], .nil, Assignment.holds_blank 0⟩
  | _, _, _, .word realizes realized, sub, whole => by
    obtain ⟨occurs, others⟩ := List.cons_subset.mp sub
    obtain ⟨values, derived, holds⟩ :=
      realized.exists_derivesEach keeps matching plain others fun i => whole (i + 1)
    refine ⟨_, .word (accepts_of_realize matching occurs realizes) derived, ?_⟩
    refine Assignment.holds_cons_iff.mpr ⟨fun fragment set => ?_, holds⟩
    obtain ⟨v, rfl⟩ := whole 0 fragment set
    rw [set] at realizes
    exact keeps.read occurs realizes
  | .tree head _, .symbol name :: _, given :: _, .tree first realized, sub, whole => by
    obtain ⟨values, derived, holds⟩ := realized.exists_derivesEach keeps matching plain
      (List.cons_subset.mp sub).2 fun i => whole (i + 1)
    -- An unset position was realized from null, and nothing is asked of what stands there.
    have value : ∃ v, given.getD (.value .null) = .value v := by
      cases set : given with
      | none => exact ⟨.null, rfl⟩
      | some fragment => exact whole 0 fragment set
    obtain ⟨v, isValue⟩ := value
    rw [isValue] at first
    obtain ⟨built, derives, related⟩ := Realizes.exists_derives keeps matching plain first
    refine ⟨_, .tree derives derived, ?_⟩
    refine Assignment.holds_cons_iff.mpr ⟨fun fragment set => ?_, holds⟩
    obtain rfl : fragment = .value v := by rwa [set] at isValue
    exact related

end

end Grammar

namespace Parser

/-- What is realized is read back by the tree by which it was realized. With classes that
match, parsing finds what the tree derives, unless it comes to a fault. With classes that
are exact as well, the tree derives something if no template names an attribute. And with
regular templates, what it derives is the value exactly if it is faithful. -/
theorem realizations_read_back (p : Parser) {symbol : String} {value : Value} {words : List Word}
    (found : words ∈ (p.realize symbol value).successes) :
    ∃ tree, tree.words = words ∧ p.grammar.Realizes tree symbol (.value value) ∧
      ((∀ c ∈ p.grammar.classes, c.Matching) → (p.parse symbol words).fault? = none →
        ∃ other ∈ (p.parse symbol words).successes, p.grammar.Derives tree symbol other) ∧
      ((∀ c ∈ p.grammar.classes, c.Matching ∧ c.Exact) →
        (∀ rule ∈ p.grammar.rules, rule.template.AttributeFree) →
          ∃ other, p.grammar.Derives tree symbol other) ∧
      ((∀ rule ∈ p.grammar.rules, rule.template.Regular) →
        ∀ other, p.grammar.Derives tree symbol other →
          (other = value ↔ p.grammar.Faithful tree symbol (.value value))) := by
  obtain ⟨tree, realizes, whole⟩ := exists_realizes_of_mem_realize found
  refine ⟨tree, whole, realizes, fun matching noFault => ?_, fun promise plain => ?_,
    fun regular other derives => ?_⟩
  · rw [← whole] at noFault ⊢
    exact exists_mem_parse_of_fits noFault (realizes.fits matching)
  · have keeps := Grammar.keeps_noShorter fun c occurs => (promise c occurs).2
    have matching := fun c occurs => (promise c occurs).1
    obtain ⟨other, derives, -⟩ := realizes.exists_derives keeps matching plain
    exact ⟨other, derives⟩
  · rw [← realizes.describes_iff regular derives]
    exact eq_comm

/-- A grammar of numbers, in which the word before the numeral is an item too. -/
def numberingParser : Parser where
  grammar := ⟨[
    ⟨"s", [.terminal (.literal "no"), .terminal (.ofClass .numeral)],
      .list [.slot 0 none, .slot 1 none] []⟩]⟩
  complete := by decide
  maxDepth := 0

/-- A list of null and a number is realized by two words, which are read back as some list. -/
theorem numbering_reads_back :
    let value : Value := .list [.null, .str "7"]
    let sentence : List Word := [.marker "no", .text ["7"]]
    numberingParser.grammar.classes = [.numeral] ∧
      sentence ∈ (numberingParser.realize "s" value).successes ∧
      ∃ tree, tree.words = sentence ∧ numberingParser.grammar.Realizes tree "s" (.value value) ∧
        (∃ other ∈ (numberingParser.parse "s" sentence).successes,
          numberingParser.grammar.Derives tree "s" other) ∧
        (∃ other, numberingParser.grammar.Derives tree "s" other) ∧
        ∀ other, numberingParser.grammar.Derives tree "s" other →
          (other = value ↔ numberingParser.grammar.Faithful tree "s" (.value value)) := by
  intro value sentence
  have isClasses : numberingParser.grammar.classes = [.numeral] := rfl
  have promise : ∀ c ∈ numberingParser.grammar.classes, c.Matching ∧ c.Exact := by
    rw [isClasses]
    exact List.forall_mem_singleton.mpr ⟨WordClass.numeral_matching, WordClass.numeral_exact⟩
  have regular : ∀ rule ∈ numberingParser.grammar.rules, rule.template.Regular := by decide
  have plain : ∀ rule ∈ numberingParser.grammar.rules, rule.template.AttributeFree := by decide
  have found : sentence ∈ (numberingParser.realize "s" value).successes := by decide
  obtain ⟨tree, whole, realizes, parsed, derives, iff⟩ :=
    realizations_read_back numberingParser found
  exact ⟨isClasses, found, tree, whole, realizes, parsed (fun c occurs => (promise c occurs).1) rfl,
    derives promise plain, iff regular⟩

/-! ### What is not read back -/

/-- Whatever a parsed value is realized by derives that value. -/
def ReadsBack (p : Parser) : Prop :=
  ∀ symbol words value sentence, value ∈ (p.parse symbol words).successes →
    sentence ∈ (p.realize symbol value).successes →
      ∃ tree, p.grammar.Derives tree symbol value ∧ tree.words = sentence

/-- A grammar in which null, the value of no words, is also realized by a marker. -/
def lenientParser : Parser where
  grammar := ⟨[⟨"s", [], .empty⟩, ⟨"s", [.terminal (.literal "x")], .slot 0 none⟩]⟩
  complete := by decide
  maxDepth := 1

/-- A grammar in which two tails of a list stand for its items together, and each is
given all of them. -/
def twoTailsParser : Parser where
  grammar := ⟨[
    ⟨"s", [.symbol "t", .symbol "t"], .list [] [.slot 0 none, .slot 1 none]⟩,
    ⟨"t", [.terminal (.literal "x")], .list [.slot 0 none] []⟩,
    ⟨"t", [.terminal (.literal "x"), .symbol "t"], .list [.slot 0 none] [.slot 1 none]⟩]⟩
  complete := by decide
  maxDepth := 5

/-- A grammar in which an attribute is taken of a record whose other field cannot be
built from everything that stands at an unset position. -/
def attributeParser : Parser where
  grammar := ⟨[
    ⟨"s", [.symbol "a"], .record "S" [.computed "k" (.slot 0 (some "k"))]⟩,
    ⟨"a", [.symbol "b", .symbol "c"],
      .record "A" [.computed "k" (.slot 0 none), .computed "l" (.slot 1 (some "m"))]⟩,
    ⟨"b", [.terminal (.literal "x")], .slot 0 none⟩,
    ⟨"c", [.terminal (.literal "y")], .record "C" [.computed "m" (.slot 0 none)]⟩,
    ⟨"c", [], .empty⟩]⟩
  complete := by decide
  maxDepth := 2

/-- The symbol of that grammar which builds records has no derivation of one word. -/
theorem attributeParser_derives_nothing {tree : Tree} {value : Value}
    (derives : attributeParser.grammar.Derives tree "a" value) : tree.words ≠ [.marker "x"] := by
  intro whole
  cases derives with
  | @node _ _ _ forest children _ ruleAt derived built =>
    have only := List.mem_singleton.mp (List.mem_of_getElem? ruleAt)
    subst only
    have noFault : (Grammar.matchElements (attributeParser.grammar.derive 2 2)
        [.symbol "b", .symbol "c"] [.marker "x"]).fault? = none := rfl
    have front : forest.words ++ [] = [.marker "x"] := (List.append_nil _).trans whole
    have matched : (children, []) ∈ (Grammar.matchElements (attributeParser.grammar.derive 2 2)
        [.symbol "b", .symbol "c"] [.marker "x"]).items :=
      (Grammar.enumerates_matchElements Grammar.enumerates_derive noFault).mem_iff.mpr
        ⟨forest, derived, front⟩
    cases List.mem_singleton.mp matched
    cases built

/-- A parser does not read back if a sentence for a parsed value is parsed without a
fault, and not as that value. -/
theorem not_readsBack {p : Parser} {symbol : String} {words sentence : List Word} {value : Value}
    (parsed : value ∈ (p.parse symbol words).successes)
    (realized : sentence ∈ (p.realize symbol value).successes)
    (noFault : (p.parse symbol sentence).fault? = none)
    (lost : value ∉ (p.parse symbol sentence).successes) : ¬ p.ReadsBack := by
  intro readsBack
  obtain ⟨tree, derives, whole⟩ := readsBack symbol words value sentence parsed realized
  exact lost ((enumerates_parse noFault).mem_iff.mpr ⟨tree, derives, whole⟩)

theorem not_all_read_back :
    ¬ lenientParser.ReadsBack ∧ ¬ twoTailsParser.ReadsBack ∧ ¬ attributeParser.ReadsBack := by
  let x := Word.marker "x"
  have lenient : ¬ lenientParser.ReadsBack :=
    @not_readsBack _ "s" [] [x] .null (by decide) (by decide) rfl (by decide)
  have twoTails : ¬ twoTailsParser.ReadsBack :=
    @not_readsBack _ "s" [x, x] [x, x, x, x] (.list [.word x, .word x]) (by decide) (by decide) rfl
      (by decide)
  refine ⟨lenient, twoTails, fun readsBack => ?_⟩
  obtain ⟨tree, derives, whole⟩ := readsBack "s" [x, .marker "y"]
    (.record "S" (FieldMap.single "k" (.word x))) [x] (by decide) (by decide)
  cases derives with
  | node ruleAt derived =>
    have only := List.mem_singleton.mp (List.mem_of_getElem? ruleAt)
    subst only
    obtain ⟨head, rest, value, others, rfl, -, derives, derived⟩ :=
      Grammar.derivesEach_symbol_iff.mp derived
    obtain ⟨rfl, -⟩ := Grammar.derivesEach_nil_iff.mp derived
    have headWords : head.words = [x] := (List.append_nil _).symm.trans whole
    exact attributeParser_derives_nothing derives headWords

end Parser
end ReversibleGrammar
