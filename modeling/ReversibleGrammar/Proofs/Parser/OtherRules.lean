/-
# What other rules change

Two grammars are compared symbol by symbol. If the rules of each symbol compare, so do
the searches: a trial of a rule in one grammar is a trial of the same rule in the other,
and what is nested in it compares by the budget that is left. The symbols nested in the
rules of a complete grammar have rules again, so the first grammar never lacks what the
search in the second one found.

Read with rules in another order, this says that the order of the rules is that of the
results and means nothing else; read with rules that were added, that nothing is lost and
nothing trades places.

Key definitions: `Feed.Reorders`.
Key theorems: `Grammar.compares_derive`, `Grammar.compares_realize`,
`Parser.rule_order_is_free`, `Parser.extension_keeps_results`.
-/
import ReversibleGrammar.Proofs.Grammar.Order
import ReversibleGrammar.Proofs.Grammar.References
import ReversibleGrammar.Proofs.Parser.Parsing
import ReversibleGrammar.Proofs.Parser.Realizing
import ReversibleGrammar.Proofs.Search.Comparison

namespace ReversibleGrammar
namespace Grammar

variable {rel : {α : Type} → List α → List α → Prop} {a b : Grammar} {limit limit' : Nat}

/-- In a complete grammar the symbols of a rule have rules. -/
theorem rulesOf_ne_nil_of_element (complete : a.Complete) {rule : Rule} {symbol name : String}
    (mem : rule ∈ a.rulesOf symbol) (element : Element.symbol name ∈ rule.rhs) :
    a.rulesOf name ≠ [] := by
  have refers : a.RefersTo symbol name := ⟨rule, mem, element⟩
  exact rulesOf_ne_nil (refers.mem_defined complete)

/-! ### Deriving -/

theorem compares_matchElements (c : Comparison rel)
    {sub sub' : String → List Word → Search SearchFault (Value × List Word)} :
    ∀ {elements : List Element}, (∀ name, Element.symbol name ∈ elements → ∀ words,
        Search.Compares rel (sub name words) (sub' name words)) → ∀ words : List Word,
      Search.Compares rel (matchElements sub elements words) (matchElements sub' elements words)
  | [], _, _ => .refl c _
  | .terminal _ :: _, _, [] => .refl c _
  | .terminal terminal :: rest, inner, word :: words => by
    unfold matchElements
    split
    · exact (compares_matchElements c (fun name mem => inner name (.tail _ mem)) words).map c _
    · exact .refl c _
  | .symbol name :: rest, inner, words => by
    unfold matchElements
    apply (inner name List.mem_cons_self words).bind c
    intro r _
    exact (compares_matchElements c (fun name mem => inner name (.tail _ mem)) r.2).map c _

/-- Where the rules of all symbols compare, so do the searches for derivations of a symbol
that the first grammar defines if the second does. -/
theorem compares_derive (c : Comparison rel) (complete : a.Complete)
    (rules : ∀ name, rel (a.rulesOf name) (b.rulesOf name)) :
    ∀ (budget : Nat) {symbol : String} (words : List Word),
      (b.rulesOf symbol ≠ [] → a.rulesOf symbol ≠ []) →
      Search.Compares rel (a.derive limit budget symbol words) (b.derive limit' budget symbol words)
  | 0, _, _, _ => nofun
  | budget + 1, symbol, words, both => by
    by_cases noRules : b.rulesOf symbol = []
    · intro noFault
      rw [derive, noRules] at noFault
      cases noFault
    · rw [derive_of_rules noRules, derive_of_rules (both noRules)]
      apply Search.Compares.each c (rules symbol)
      intro rule mem
      have inner : ∀ name, Element.symbol name ∈ rule.rhs → ∀ words, Search.Compares rel
          (a.derive limit budget name words) (b.derive limit' budget name words) := by
        intro name element words
        have someRules : a.rulesOf name ≠ [] := rulesOf_ne_nil_of_element complete mem element
        exact compares_derive c complete rules budget words fun _ => someRules
      apply Search.Compares.trial c
      apply (compares_matchElements c inner words).bind c
      intro r _
      exact .refl c _

/-! ### Realizing -/

theorem compares_realizeElements (c : Comparison rel)
    {sub sub' : String → Fragment → Search SearchFault (List Word)} :
    ∀ {elements : List Element}, (∀ name, Element.symbol name ∈ elements → ∀ fragment,
        Search.Compares rel (sub name fragment) (sub' name fragment)) →
      ∀ places : List (Option Fragment), Search.Compares rel (realizeElements sub elements places)
        (realizeElements sub' elements places)
  | [], _, _ => .refl c _
  | .terminal terminal :: rest, inner, places => by
    unfold realizeElements
    split
    · exact (compares_realizeElements c (fun name mem => inner name (.tail _ mem)) _).map c _
    · exact .refl c _
  | .symbol name :: rest, inner, places => by
    unfold realizeElements
    apply (inner name List.mem_cons_self _).bind c
    intro front _
    exact (compares_realizeElements c (fun name mem => inner name (.tail _ mem)) _).map c _

theorem compares_realizeBy (c : Comparison rel)
    {sub sub' : String → Fragment → Search SearchFault (List Word)} {rule : Rule}
    (inner : ∀ name, Element.symbol name ∈ rule.rhs → ∀ fragment,
      Search.Compares rel (sub name fragment) (sub' name fragment)) (fragment : Fragment) :
    Search.Compares rel (realizeBy sub rule fragment) (realizeBy sub' rule fragment) := by
  unfold realizeBy
  split
  · exact compares_realizeElements c inner _
  · exact .refl c _
  · exact .refl c _

/-- Where the rules of all symbols compare, so do the searches for realizations by a symbol
that the first grammar defines if the second does. -/
theorem compares_realize (c : Comparison rel) (complete : a.Complete)
    (rules : ∀ name, rel (a.rulesOf name) (b.rulesOf name)) :
    ∀ (budget : Nat) {symbol : String} (fragment : Fragment),
      (b.rulesOf symbol ≠ [] → a.rulesOf symbol ≠ []) → Search.Compares rel
        (a.realize limit budget symbol fragment) (b.realize limit' budget symbol fragment)
  | 0, _, _, _ => nofun
  | budget + 1, symbol, fragment, both => by
    by_cases noRules : b.rulesOf symbol = []
    · intro noFault
      rw [realize_succ, noRules] at noFault
      cases noFault
    · rw [realize_of_rules noRules, realize_of_rules (both noRules)]
      apply Search.Compares.each c (rules symbol)
      intro rule mem
      have inner : ∀ name, Element.symbol name ∈ rule.rhs → ∀ fragment, Search.Compares rel
          (a.realize limit budget name fragment) (b.realize limit' budget name fragment) := by
        intro name element fragment
        have someRules : a.rulesOf name ≠ [] := rulesOf_ne_nil_of_element complete mem element
        exact compares_realize c complete rules budget fragment fun _ => someRules
      exact .trial c (compares_realizeBy c inner fragment)

end Grammar

/-! ### Streams -/

namespace Parser

variable {rel : {α : Type} → List α → List α → Prop} {a b : Grammar} {symbol : String}

theorem compares_parseSearch (c : Comparison rel) (complete : a.Complete) (complete' : b.Complete)
    (rules : ∀ name, rel (a.rulesOf name) (b.rulesOf name))
    (both : b.rulesOf symbol ≠ [] → a.rulesOf symbol ≠ []) (maxDepth : Nat) (words : List Word) :
    Search.Compares rel ((⟨a, complete, maxDepth⟩ : Parser).parseSearch symbol words)
      ((⟨b, complete', maxDepth⟩ : Parser).parseSearch symbol words) := by
  rw [parseSearch_eq, parseSearch_eq]
  apply (Grammar.compares_derive c complete rules (maxDepth + 1) words both).bind c
  intro r _
  exact .refl c _

theorem compares_realizeSearch (c : Comparison rel) (complete : a.Complete) (complete' : b.Complete)
    (rules : ∀ name, rel (a.rulesOf name) (b.rulesOf name))
    (both : b.rulesOf symbol ≠ [] → a.rulesOf symbol ≠ []) (maxDepth : Nat) (value : Value) :
    Search.Compares rel ((⟨a, complete, maxDepth⟩ : Parser).realizeSearch symbol value)
      ((⟨b, complete', maxDepth⟩ : Parser).realizeSearch symbol value) := by
  rw [realizeSearch_eq, realizeSearch_eq]
  exact Grammar.compares_realize c complete rules (maxDepth + 1) (.value value) both

end Parser

/-! ### Rules in another order -/

/-- The second feed has no fault, and read to its end it hands out the items of the first
one in some order, after as many trials. -/
structure Feed.Reorders {α : Type} (x y : Feed (Except SearchFault α)) : Prop where
  noFault : y.fault? = none
  successes : x.successes.Perm y.successes
  trials : x.trials = y.trials

theorem Search.Compares.reorders {α : Type} {x y : Search SearchFault α}
    (h : Search.Compares List.Perm y x) (noFault : x.feed.fault? = none) :
    Feed.Reorders x.feed y.feed := by
  rw [fault?_feed] at noFault
  obtain ⟨noFault', traces⟩ := h noFault
  constructor
  · rw [fault?_feed, noFault']
  · rw [successes_feed, successes_feed, items_eq_trace, items_eq_trace]
    exact (traces.filterMap id).symm
  · rw [trials_feed, trials_feed, trials_eq_trace, trials_eq_trace]
    exact (traces.countP_eq _).symm

/-- What is left of a search without a fault has none, and some of its items. -/
theorem Search.Compares.keeps {α : Type} {x y : Search SearchFault α}
    (h : Search.Compares List.Sublist x y) (noFault : y.feed.fault? = none) :
    x.feed.fault? = none ∧ x.feed.successes.Sublist y.feed.successes := by
  rw [fault?_feed] at noFault
  obtain ⟨noFault', traces⟩ := h noFault
  rw [fault?_feed, successes_feed, successes_feed, items_eq_trace, items_eq_trace]
  exact ⟨noFault', traces.filterMap id⟩

namespace Parser

/-- **The order of the rules is that of the results, and means nothing else.** Rules that
make a parser make one in any order. Under the same budget, whatever is parsed or realized
without a fault is so in the other order too, with the same results and the same number
of trials. -/
theorem rule_order_is_free {rules rules' : List Rule} (perm : rules.Perm rules') {p : Parser}
    (accepted : ofGrammar ⟨rules⟩ = .ok p) :
    ∃ q, ofGrammar ⟨rules'⟩ = .ok q ∧ ∀ (maxDepth : Nat) (symbol : String),
      (∀ words : List Word, ({ p with maxDepth }.parse symbol words).fault? = none →
        Feed.Reorders ({ p with maxDepth }.parse symbol words)
          ({ q with maxDepth }.parse symbol words)) ∧
      ∀ value : Value, ({ p with maxDepth }.realize symbol value).fault? = none →
        Feed.Reorders ({ p with maxDepth }.realize symbol value)
          ({ q with maxDepth }.realize symbol value) := by
  obtain ⟨complete, rfl⟩ := eq_of_ofGrammar accepted
  have complete' : Grammar.Complete ⟨rules'⟩ := complete.of_perm perm
  have sameRules : ∀ name, ((⟨rules'⟩ : Grammar).rulesOf name).Perm
      ((⟨rules⟩ : Grammar).rulesOf name) := fun name => (perm.filter _).symm
  refine ⟨_, ofGrammar_of_complete complete', fun maxDepth symbol => ?_⟩
  have both : (⟨rules⟩ : Grammar).rulesOf symbol ≠ [] → (⟨rules'⟩ : Grammar).rulesOf symbol ≠ [] := by
    intro someRules noRules
    have same := sameRules symbol
    rw [noRules] at same
    exact someRules same.nil_eq.symm
  constructor
  · intro words noFault
    exact (compares_parseSearch .perm complete' complete sameRules both maxDepth words).reorders
      noFault
  · intro value noFault
    exact (compares_realizeSearch .perm complete' complete sameRules both maxDepth value).reorders
      noFault

/-- Rules for pairs, each half of which is one word or two. -/
def pairRules : List Rule := [
  ⟨"s", [.symbol "n", .symbol "n"], .list [.slot 0 none, .slot 1 none] []⟩,
  ⟨"n", [.terminal (.literal "x")], .slot 0 none⟩,
  ⟨"n", [.terminal (.literal "x"), .terminal (.literal "x")],
    .list [.slot 0 none, .slot 1 none] []⟩]

/-- The parser of pairs. -/
def pairParser : Parser where
  grammar := ⟨pairRules⟩
  complete := by decide

/-- Three words are two pairs, which come the other way round if the rules do. -/
theorem pairs_reordered :
    pairRules.Perm pairRules.reverse ∧ ofGrammar ⟨pairRules⟩ = .ok pairParser ∧
      ({ pairParser with maxDepth := 1 }.parse "s" (.replicate 3 (.marker "x"))).fault? = none ∧
      ∃ q, ofGrammar ⟨pairRules.reverse⟩ = .ok q ∧
        Feed.Reorders ({ pairParser with maxDepth := 1 }.parse "s" (.replicate 3 (.marker "x")))
          ({ q with maxDepth := 1 }.parse "s" (.replicate 3 (.marker "x"))) := by
  have perm : pairRules.Perm pairRules.reverse := (List.reverse_perm _).symm
  have accepted : ofGrammar ⟨pairRules⟩ = .ok pairParser :=
    ofGrammar_of_complete pairParser.complete
  have noFault : ({ pairParser with maxDepth := 1 }.parse "s"
      (.replicate 3 (.marker "x"))).fault? = none := rfl
  obtain ⟨q, accepted', same⟩ := rule_order_is_free perm accepted
  exact ⟨perm, accepted, noFault, q, accepted', (same 1 "s").1 _ noFault⟩

/-! ### More rules -/

/-- **More rules lose no results.** Let a grammar and the grammar with more rules both have
parsers. Under the same budget, what a symbol of the first grammar parses or realizes with
more rules without a fault, it parses or realizes without them, without a fault, and the
results are some of the results with more rules, in the same order. -/
theorem extension_keeps_results {a b : Grammar} {p q : Parser} (accepted : ofGrammar a = .ok p)
    (accepted' : ofGrammar (a + b) = .ok q) {symbol : String} (defined : symbol ∈ a.defined)
    (maxDepth : Nat) :
    (∀ words : List Word, ({ q with maxDepth }.parse symbol words).fault? = none →
      ({ p with maxDepth }.parse symbol words).fault? = none ∧
        ({ p with maxDepth }.parse symbol words).successes.Sublist
          ({ q with maxDepth }.parse symbol words).successes) ∧
    ∀ value : Value, ({ q with maxDepth }.realize symbol value).fault? = none →
      ({ p with maxDepth }.realize symbol value).fault? = none ∧
        ({ p with maxDepth }.realize symbol value).successes.Sublist
          ({ q with maxDepth }.realize symbol value).successes := by
  obtain ⟨complete, rfl⟩ := eq_of_ofGrammar accepted
  obtain ⟨complete', rfl⟩ := eq_of_ofGrammar accepted'
  have moreRules : ∀ name, (a.rulesOf name).Sublist ((a + b).rulesOf name) := by
    intro name
    rw [Grammar.rulesOf_add]
    exact List.sublist_append_left _ _
  have both : (a + b).rulesOf symbol ≠ [] → a.rulesOf symbol ≠ [] :=
    fun _ => Grammar.rulesOf_ne_nil defined
  constructor
  · intro words noFault
    exact (compares_parseSearch .sublist complete complete' moreRules both maxDepth words).keeps
      noFault
  · intro value noFault
    exact (compares_realizeSearch .sublist complete complete' moreRules both maxDepth value).keeps
      noFault

/-- With a third rule for halves, of two words, three words are still the pairs that they
were. -/
theorem pairs_extended :
    ofGrammar ⟨pairRules⟩ = .ok pairParser ∧
      ∃ q, ofGrammar (⟨pairRules⟩ +
          ⟨[⟨"n", [.terminal (.literal "x"), .terminal (.literal "x")], .empty⟩]⟩) = .ok q ∧
        ({ pairParser with maxDepth := 1 }.parse "s" (.replicate 3 (.marker "x"))).successes.Sublist
          ({ q with maxDepth := 1 }.parse "s" (.replicate 3 (.marker "x"))).successes := by
  have accepted : ofGrammar ⟨pairRules⟩ = .ok pairParser :=
    ofGrammar_of_complete pairParser.complete
  have accepted' := ofGrammar_of_complete (g := ⟨pairRules⟩ +
    ⟨[⟨"n", [.terminal (.literal "x"), .terminal (.literal "x")], .empty⟩]⟩) (by decide)
  have defined : "s" ∈ (⟨pairRules⟩ : Grammar).defined := by decide
  have kept := extension_keeps_results accepted accepted' defined 1
  exact ⟨accepted, _, accepted', (kept.1 _ rfl).2⟩

end Parser

end ReversibleGrammar
