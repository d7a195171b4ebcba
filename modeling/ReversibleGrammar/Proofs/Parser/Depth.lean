/-
# Left recursion and the depth budget

Without left recursion the search nests no deeper than the words account for. While no
word is taken, each symbol is nested in another by an arrow of the starts, so its rank
falls, and there are no more ranks than defined symbols; each word that is taken lets
the rank start again. A budget of one for each defined symbol at each place of the
sentence is therefore never used up.

With left recursion the budget is always used up. Around a cycle of the starts the
search is nested in itself without taking a word, whatever the sentence is, and a
search without a fault would have run all those nested in it, each with one symbol less to
nest: the one with no budget at all has a fault. Where templates always build, nothing
else can be a fault.

Key definitions: `Grammar.need`.
Key theorems: `Grammar.Nests.need_lt`, `Grammar.fault?_ne_none_of_onCycle`,
`Parser.depth_suffices`, `Parser.left_recursion_exhausts`.
-/
import ReversibleGrammar.Proofs.Graph.Rank
import ReversibleGrammar.Proofs.Parser.Nesting
import ReversibleGrammar.Proofs.Template.Total

namespace ReversibleGrammar
namespace Grammar

variable {g : Grammar} {limit budget : Nat} {symbol inner : String} {words left : List Word}

/-! ### Without left recursion -/

/-- The number of defined symbols. -/
def breadth (g : Grammar) : Nat :=
  g.defined.toList.length

/-- How many defined symbols the starts lead to from a symbol, itself counted if it is defined. -/
def rank (g : Grammar) (symbol : String) : Nat :=
  g.starts.rank g.defined.toList.toFinset symbol

/-- A budget that is enough for deriving a symbol: a turn of all symbols for each word,
and those that can follow at the place where it stands. -/
def need (g : Grammar) (symbol : String) (words : List Word) : Nat :=
  g.breadth * words.length + g.rank symbol

theorem rank_pos (defined : symbol ∈ g.defined) : 0 < g.rank symbol :=
  Graph.rank_pos (List.mem_toFinset.mpr defined)

theorem need_le (g : Grammar) (symbol : String) (words : List Word) :
    g.need symbol words ≤ g.breadth * (words.length + 1) := by
  have low : g.rank symbol ≤ g.breadth :=
    (Graph.rank_le_card symbol).trans g.defined.toList.toFinset_card_le
  unfold need
  rw [Nat.mul_succ]
  omega

/-- What is nested in a symbol needs less than the symbol: it has fewer words, or the
same words and a lower rank. -/
theorem Nests.need_lt (noLeftRecursion : g.leftRecursive = .empty) (defined : symbol ∈ g.defined)
    (nests : g.Nests symbol words inner left) : g.need inner left < g.need symbol words := by
  rcases nests.shorter_or_arrow with shorter | ⟨rfl, arrow⟩
  · -- The rank may rise here, but the word that was taken pays for a whole turn.
    have pos : 0 < g.rank symbol := rank_pos defined
    calc g.need inner left
        ≤ g.breadth * (left.length + 1) := need_le g inner left
      _ ≤ g.breadth * words.length := Nat.mul_le_mul_left _ shorter
      _ < g.need symbol words := Nat.lt_add_of_pos_right pos
  · have noCycle : g.starts.onCycle symbol = false := onCycle_eq_false noLeftRecursion symbol
    have lower : g.rank inner < g.rank symbol :=
      Graph.rank_lt_of_arrow (List.mem_toFinset.mpr defined) noCycle arrow
    exact Nat.add_lt_add_left lower _

/-- A budget that covers what a symbol needs is not exceeded. -/
theorem not_depthExceeded_of_need_le (complete : g.Complete)
    (noLeftRecursion : g.leftRecursive = .empty) {name : String} {bound : Nat} :
    ∀ {budget : Nat} {symbol : String} {words : List Word}, symbol ∈ g.defined →
      g.need symbol words ≤ budget →
      (g.derive limit budget symbol words).fault? ≠ some (.depthExceeded name bound)
  | 0, symbol, words, defined, enough => by
    have pos : 0 < g.rank symbol := rank_pos defined
    unfold need at enough
    omega
  | budget + 1, symbol, words, defined, enough => by
    intro exceeded
    rcases fault?_derive_cases exceeded with
      ⟨noRules, -⟩ | ⟨inner, left, nests, faulty⟩ | ⟨rule, -, _, _, cause, -, -, isRule⟩
    · exact rulesOf_ne_nil defined noRules
    · have less : g.need inner left < g.need symbol words := nests.need_lt noLeftRecursion defined
      exact not_depthExceeded_of_need_le complete noLeftRecursion (nests.mem_defined complete)
        (by omega) faulty
    · cases isRule

/-! ### With left recursion -/

/-- On a cycle of the starts every budget is used up, if no other fault comes before. -/
theorem fault?_ne_none_of_onCycle : ∀ {budget : Nat} {symbol : String},
    g.starts.onCycle symbol = true → (g.derive limit budget symbol words).fault? ≠ none
  | 0, _, _ => nofun
  | budget + 1, symbol, cycle => by
    intro noFault
    obtain ⟨next, arrow, cycle'⟩ := Graph.exists_arrow_of_onCycle cycle
    have nests : g.Nests symbol words next words := nests_of_arrow arrow words
    exact fault?_ne_none_of_onCycle cycle' (nests.fault?_eq_none noFault)

/-- Where every template always builds, the only fault is that the budget is used up. -/
theorem exists_depthExceeded_of_fault (complete : g.Complete)
    (total : ∀ rule ∈ g.rules, rule.template.Total rule.rhs.length) {fault : SearchFault} :
    ∀ {budget : Nat} {symbol : String} {words : List Word}, symbol ∈ g.defined →
      (g.derive limit budget symbol words).fault? = some fault →
      ∃ name, fault = .depthExceeded name limit
  | 0, symbol, _, _, faulty => by
    cases faulty
    exact ⟨symbol, rfl⟩
  | budget + 1, symbol, words, defined, faulty => by
    rcases fault?_derive_cases faulty with
      ⟨noRules, -⟩ | ⟨inner, left, nests, faulty⟩ | ⟨rule, mem, _, _, cause, derived, failed, -⟩
    · exact absurd noRules (rulesOf_ne_nil defined)
    · exact exists_depthExceeded_of_fault complete total (nests.mem_defined complete) faulty
    · have fits := total rule (mem_rulesOf.mp mem).1
      rw [← derived.length_eq] at fits
      obtain ⟨value, built⟩ := fits.exists_build
      rw [failed] at built
      cases built

end Grammar

namespace Parser

/-- **Without left recursion the budget is about the length of the sentence only.** If it
allows each defined symbol at each place of the sentence, parsing never exceeds it. -/
theorem depth_suffices (p : Parser) (noLeftRecursion : p.grammar.leftRecursive = .empty)
    {symbol : String} (defined : symbol ∈ p.grammar.defined) {words : List Word}
    (enough : p.grammar.defined.toList.length * (words.length + 1) ≤ p.maxDepth + 1)
    (name : String) (limit : Nat) :
    .error (.depthExceeded name limit) ∉ (p.parse symbol words).toList := by
  unfold parse
  rw [Search.error_mem_feed_iff, ← fault?_parse, fault?_parse_eq_derive]
  have covered : p.grammar.need symbol words ≤ p.maxDepth + 1 :=
    (Grammar.need_le p.grammar symbol words).trans enough
  exact Grammar.not_depthExceeded_of_need_le p.complete noLeftRecursion defined covered

/-- A grammar of lists whose items end in a full stop and start with a symbol that may be
empty; a list is empty too, but no item is. -/
def itemsParser : Parser where
  grammar := ⟨[
    ⟨"s", [.symbol "a", .symbol "s"], .list [.slot 0 none] [.slot 1 none]⟩,
    ⟨"s", [], .list [] []⟩,
    ⟨"a", [.symbol "b", .terminal (.literal ".")], .slot 0 none⟩,
    ⟨"b", [], .empty⟩,
    ⟨"b", [.terminal .textSpan], .slot 0 none⟩]⟩
  complete := by decide
  maxDepth := 11

theorem items_depth_suffices :
    itemsParser.grammar.leftRecursive = .empty ∧ "s" ∈ itemsParser.grammar.defined ∧
      ∀ name limit, .error (.depthExceeded name limit) ∉
        (itemsParser.parse "s" [.text ["t"], .marker ".", .marker "."]).toList := by
  have noLeftRecursion : itemsParser.grammar.leftRecursive = .empty := by cbv
  have defined : "s" ∈ itemsParser.grammar.defined := by decide
  exact ⟨noLeftRecursion, defined, depth_suffices itemsParser noLeftRecursion defined (by decide)⟩

/-- **Left recursion is never a false alarm.** Parsing as a left-recursive symbol comes to
a fault on every sentence, and where every template always builds, the fault is that
the budget is exceeded. -/
theorem left_recursion_exhausts (p : Parser) {symbol : String}
    (recursive : symbol ∈ p.grammar.leftRecursive) (words : List Word) :
    (p.parse symbol words).fault? ≠ none ∧
      ((∀ rule ∈ p.grammar.rules, rule.template.Total rule.rhs.length) →
        ∃ name, (p.parse symbol words).fault? = some (.depthExceeded name p.maxDepth)) := by
  rw [fault?_parse_eq_derive]
  have cycle : p.grammar.starts.onCycle symbol = true := Grammar.mem_leftRecursive_iff.mp recursive
  have faulty : (p.grammar.derive p.maxDepth (p.maxDepth + 1) symbol words).fault? ≠ none :=
    Grammar.fault?_ne_none_of_onCycle cycle
  refine ⟨faulty, fun total => ?_⟩
  obtain ⟨fault, isFault⟩ := Option.ne_none_iff_exists'.mp faulty
  have defined : symbol ∈ p.grammar.defined := Grammar.mem_defined_of_onCycle cycle
  obtain ⟨name, rfl⟩ := Grammar.exists_depthExceeded_of_fault p.complete total defined isFault
  exact ⟨name, isFault⟩

/-- A grammar in which a symbol stands at its own start only by way of another one, and
behind a symbol that may be empty. -/
def hiddenParser : Parser where
  grammar := ⟨[
    ⟨"s", [.symbol "a", .symbol "b", .terminal (.literal "x")], .slot 1 none⟩,
    ⟨"a", [.terminal (.literal "y")], .slot 0 none⟩,
    ⟨"a", [], .empty⟩,
    ⟨"b", [.symbol "s"], .list [.slot 0 none] []⟩,
    ⟨"b", [], .empty⟩]⟩
  complete := by decide
  maxDepth := 4

theorem hidden_left_recursion_exhausts :
    "s" ∈ hiddenParser.grammar.leftRecursive ∧
      (∀ rule ∈ hiddenParser.grammar.rules, rule.template.Total rule.rhs.length) ∧
      ∃ name, (hiddenParser.parse "s" [.marker "y", .marker "x"]).fault? =
        some (.depthExceeded name 4) := by
  have recursive : "s" ∈ hiddenParser.grammar.leftRecursive := by
    have both : hiddenParser.grammar.leftRecursive.toList = ["b", "s"] := by cbv
    show "s" ∈ hiddenParser.grammar.leftRecursive.toList
    rw [both]
    decide
  have total : ∀ rule ∈ hiddenParser.grammar.rules, rule.template.Total rule.rhs.length := by decide
  exact ⟨recursive, total, (left_recursion_exhausts hiddenParser recursive _).2 total⟩

end Parser
end ReversibleGrammar
