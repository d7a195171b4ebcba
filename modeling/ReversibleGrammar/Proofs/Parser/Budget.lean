/-
# What the depth budget changes

Of two searches that differ in their budgets, the one with the smaller budget is cut off
from the other by the fault that the depth is exceeded, and differs in nothing else. The
budget is looked at in one place, where a symbol is expanded: there the smaller one may be
used up, and else both searches try the same rules, with smaller budgets in the same
order.

Key definitions: `SearchFault.IsDepth`.
Key theorems: `Grammar.cutOff_derive`, `Grammar.cutOff_realize`, `Parser.budget_only_cuts_off`.
-/
import ReversibleGrammar.Proofs.Parser.Parsing
import ReversibleGrammar.Proofs.Parser.Realizing
import ReversibleGrammar.Proofs.Search.CutOff

namespace ReversibleGrammar

/-- The fault is that the depth is exceeded. -/
def SearchFault.IsDepth (fault : SearchFault) : Prop :=
  ∃ symbol limit, fault = .depthExceeded symbol limit

namespace Grammar

variable {cuts : SearchFault → Prop} {g : Grammar} {limit limit' budget budget' : Nat}

/-! ### Deriving -/

theorem cutOff_matchElements {sub sub' : String → List Word → Search SearchFault (Value × List Word)}
    (inner : ∀ name words, Search.CutOff cuts (sub name words) (sub' name words)) :
    ∀ (elements : List Element) (words : List Word),
      Search.CutOff cuts (matchElements sub elements words) (matchElements sub' elements words)
  | [], _ => .refl _
  | .terminal _ :: _, [] => .done
  | .terminal terminal :: rest, word :: words => by
    unfold matchElements
    split
    · exact (cutOff_matchElements inner rest words).map _
    · exact .done
  | .symbol name :: rest, words => by
    unfold matchElements
    apply (inner name words).bind
    intro r
    exact (cutOff_matchElements inner rest r.2).map _

/-- A search for derivations is cut off from any with a larger budget. -/
theorem cutOff_derive (le : budget ≤ budget') (symbol : String) (words : List Word) :
    Search.CutOff SearchFault.IsDepth (g.derive limit budget symbol words)
      (g.derive limit' budget' symbol words) := by
  induction budget generalizing budget' symbol words with
  -- The smaller budget is used up, whatever the larger one lets the other search find.
  | zero => exact .cut ⟨symbol, limit, rfl⟩ _
  | succ budget ih =>
    obtain ⟨larger, rfl⟩ : ∃ larger, budget' = larger + 1 := ⟨budget' - 1, by omega⟩
    have inner : ∀ name words, Search.CutOff SearchFault.IsDepth (g.derive limit budget name words)
        (g.derive limit' larger name words) := ih (by omega)
    unfold derive
    split
    · exact .fail _
    · apply Search.CutOff.each
      intro rule
      apply Search.CutOff.trial
      apply (cutOff_matchElements inner rule.rhs words).bind
      intro r
      exact .refl _

/-! ### Realizing -/

theorem cutOff_realizeElements {sub sub' : String → Fragment → Search SearchFault (List Word)}
    (inner : ∀ name fragment, Search.CutOff cuts (sub name fragment) (sub' name fragment)) :
    ∀ (elements : List Element) (places : List (Option Fragment)),
      Search.CutOff cuts (realizeElements sub elements places) (realizeElements sub' elements places)
  | [], _ => .refl _
  | .terminal terminal :: rest, places => by
    unfold realizeElements
    split
    · exact (cutOff_realizeElements inner rest places.tail).map _
    · exact .done
  | .symbol name :: rest, places => by
    unfold realizeElements
    apply (inner name _).bind
    intro front
    exact (cutOff_realizeElements inner rest places.tail).map _

theorem cutOff_realizeBy {sub sub' : String → Fragment → Search SearchFault (List Word)}
    (inner : ∀ name fragment, Search.CutOff cuts (sub name fragment) (sub' name fragment))
    (rule : Rule) (fragment : Fragment) :
    Search.CutOff cuts (realizeBy sub rule fragment) (realizeBy sub' rule fragment) := by
  unfold realizeBy
  split
  · exact cutOff_realizeElements inner rule.rhs _
  · exact .done
  · exact .fail _

/-- A search for realizations is cut off from any with a larger budget. -/
theorem cutOff_realize (le : budget ≤ budget') (symbol : String) (fragment : Fragment) :
    Search.CutOff SearchFault.IsDepth (g.realize limit budget symbol fragment)
      (g.realize limit' budget' symbol fragment) := by
  induction budget generalizing budget' symbol fragment with
  | zero => exact .cut ⟨symbol, limit, rfl⟩ _
  | succ budget ih =>
    obtain ⟨larger, rfl⟩ : ∃ larger, budget' = larger + 1 := ⟨budget' - 1, by omega⟩
    have inner : ∀ name fragment, Search.CutOff SearchFault.IsDepth
        (g.realize limit budget name fragment) (g.realize limit' larger name fragment) :=
      ih (by omega)
    rw [realize_succ, realize_succ]
    split
    · exact .fail _
    · apply Search.CutOff.each
      intro rule
      exact .trial (cutOff_realizeBy inner rule fragment)

end Grammar

/-! ### Streams -/

/-- The stream of a search that is cut off by exceeded depths: if it does not come to such
a fault it is the whole stream, item by item and trial by trial, and if it does, what it
handed out before is what the whole stream hands out first. -/
theorem Search.CutOff.feeds {α : Type} {x y : Search SearchFault α}
    (h : Search.CutOff SearchFault.IsDepth x y) :
    ((∀ name limit, x.feed.fault? ≠ some (.depthExceeded name limit)) → y.feed = x.feed) ∧
      ∀ name limit, x.feed.fault? = some (.depthExceeded name limit) →
        x.feed.successes <+: y.feed.successes := by
  rw [Search.fault?_feed, Search.successes_feed, Search.successes_feed]
  constructor
  · intro uncut
    rw [h.eq]
    rintro _ faulty ⟨name, limit, rfl⟩
    exact uncut name limit faulty
  · intro _ _ _
    exact h.items_prefix

namespace Parser

/-- **The budget cuts a search off and changes nothing else.** Let a grammar be parsed with
or realized by under a budget and under a larger one. A stream that does not come to
exceeded depth under the smaller budget is the same stream under the larger: it hands out
the same items in the same order, comes to the same end, and tries the same number of
rules on the way to each item and to the end. A stream that does come to exceeded depth
has handed out what the stream under the larger budget hands out first. -/
theorem budget_only_cuts_off (p : Parser) {small large : Nat} (le : small ≤ large)
    (symbol : String) :
    (∀ words : List Word,
      ((∀ name limit, ({ p with maxDepth := small }.parse symbol words).fault? ≠
          some (.depthExceeded name limit)) →
        { p with maxDepth := large }.parse symbol words =
          { p with maxDepth := small }.parse symbol words) ∧
      ∀ name limit, ({ p with maxDepth := small }.parse symbol words).fault? =
          some (.depthExceeded name limit) →
        ({ p with maxDepth := small }.parse symbol words).successes <+:
          ({ p with maxDepth := large }.parse symbol words).successes) ∧
    ∀ value : Value,
      ((∀ name limit, ({ p with maxDepth := small }.realize symbol value).fault? ≠
          some (.depthExceeded name limit)) →
        { p with maxDepth := large }.realize symbol value =
          { p with maxDepth := small }.realize symbol value) ∧
      ∀ name limit, ({ p with maxDepth := small }.realize symbol value).fault? =
          some (.depthExceeded name limit) →
        ({ p with maxDepth := small }.realize symbol value).successes <+:
          ({ p with maxDepth := large }.realize symbol value).successes := by
  have larger : small + 1 ≤ large + 1 := Nat.succ_le_succ le
  constructor
  · intro words
    apply Search.CutOff.feeds
    rw [parseSearch_eq, parseSearch_eq]
    apply (Grammar.cutOff_derive larger symbol words).bind
    intro r
    exact .refl _
  · intro value
    apply Search.CutOff.feeds
    rw [realizeSearch_eq, realizeSearch_eq]
    exact Grammar.cutOff_realize larger symbol (.value value)

/-- A grammar in which a word is parsed at once, and once more with an empty symbol
behind it. -/
def trailingParser : Parser where
  grammar := ⟨[
    ⟨"s", [.terminal (.literal "x")], .slot 0 none⟩,
    ⟨"s", [.terminal (.literal "x"), .symbol "o"], .list [.slot 0 none] []⟩,
    ⟨"o", [], .empty⟩]⟩
  complete := by decide

/-- Without depth the second parse is cut off, and the one before it is kept. -/
theorem trailing_budget_cuts_off :
    0 ≤ 1 ∧ 1 ≤ 7 ∧
      ({ trailingParser with maxDepth := 0 }.parse "s" [.marker "x"]).fault? =
        some (.depthExceeded "o" 0) ∧
      ({ trailingParser with maxDepth := 0 }.parse "s" [.marker "x"]).successes ≠
        ({ trailingParser with maxDepth := 1 }.parse "s" [.marker "x"]).successes ∧
      ({ trailingParser with maxDepth := 0 }.parse "s" [.marker "x"]).successes <+:
        ({ trailingParser with maxDepth := 1 }.parse "s" [.marker "x"]).successes ∧
      { trailingParser with maxDepth := 7 }.realize "s" (.list [.null]) =
        { trailingParser with maxDepth := 1 }.realize "s" (.list [.null]) := by
  have exceeded : ({ trailingParser with maxDepth := 0 }.parse "s" [.marker "x"]).fault? =
      some (.depthExceeded "o" 0) := rfl
  have noFault : ({ trailingParser with maxDepth := 1 }.realize "s" (.list [.null])).fault? =
      none := rfl
  refine ⟨by decide, by decide, exceeded, by decide, ?_, ?_⟩
  · exact ((budget_only_cuts_off trailingParser (by decide : 0 ≤ 1) "s").1 _).2 _ _ exceeded
  · refine ((budget_only_cuts_off trailingParser (by decide : 1 ≤ 7) "s").2 _).1 ?_
    intro name limit
    rw [noFault]
    exact nofun

end Parser
end ReversibleGrammar
