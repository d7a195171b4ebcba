/-
# Realizing enumerates realization trees

What the search for realizations finds are the words of realization trees. If it
has no fault it finds those of all realization trees, each once and in the order of
trees: rule by rule, and within a rule the choices for the last element varying
fastest. A rule whose template does not fit has no trees, and those after it are
tried all the same.

Key theorems: `Grammar.exists_realizes_of_mem_realize`, `Grammar.enumerates_realize`,
`Parser.realize_enumerates_trees`.
-/
import ReversibleGrammar.Parser.Realizations
import ReversibleGrammar.Proofs.Enumeration
import ReversibleGrammar.Proofs.Search.Outcome
import ReversibleGrammar.Proofs.Template.Gathering
import ReversibleGrammar.Proofs.Tree.Realization

namespace ReversibleGrammar
namespace Grammar

variable {g : Grammar} {sub : String → Fragment → Search SearchFault (List Word)}

/-- What the trial of a rule searches: nothing, if its template does not fit. -/
def realizeBy (sub : String → Fragment → Search SearchFault (List Word)) (rule : Rule)
    (fragment : Fragment) : Search SearchFault (List Word) :=
  match rule.template.decompose rule.rhs.length fragment with
  | .ok flat => realizeElements sub rule.rhs flat.places
  | .error (.mismatch _) => .done
  | .error (.fault cause) => .fail (.inRule rule cause)

theorem realize_succ (g : Grammar) (limit budget : Nat) (symbol : String) (fragment : Fragment) :
    g.realize limit (budget + 1) symbol fragment =
      match g.rulesOf symbol with
      | [] => .fail (.undefinedSymbol symbol)
      | rules => rules |> Search.each fun rule =>
          .trial fun _ => realizeBy (g.realize limit budget) rule fragment := rfl

/-- A symbol with rules is realized by them in turn. -/
theorem realize_of_rules {limit budget : Nat} {symbol : String} {fragment : Fragment}
    (someRules : g.rulesOf symbol ≠ []) :
    g.realize limit (budget + 1) symbol fragment =
      Search.each (fun rule => .trial fun _ => realizeBy (g.realize limit budget) rule fragment)
        (g.rulesOf symbol) := by
  rw [realize_succ]
  split
  · contradiction
  · rfl

/-! ### Found sentences are realized -/

theorem exists_realizesEach_of_mem_realizeElements {budget : Nat}
    (sound : ∀ {name fragment words}, words ∈ (sub name fragment).items →
      ∃ tree : Tree, g.Realizes tree name fragment ∧ tree.words = words ∧ tree.height ≤ budget) :
    ∀ {elements : List Element} {places : List (Option Fragment)} {words : List Word},
      places.length = elements.length → words ∈ (realizeElements sub elements places).items →
        ∃ forest : Forest, g.RealizesEach forest elements places ∧ forest.words = words ∧
          forest.height ≤ budget
  | [], [], words, _, h => by
    obtain rfl := List.mem_singleton.mp h
    exact ⟨.nil, .nil, rfl, Nat.zero_le budget⟩
  | .terminal terminal :: rest, given :: places, words, width, h => by
    unfold realizeElements at h
    split at h
    · rename_i word realizes
      rw [Search.items_map] at h
      obtain ⟨words', h', rfl⟩ := List.mem_map.mp h
      obtain ⟨forest, realized, rfl, low⟩ :=
        exists_realizesEach_of_mem_realizeElements sound (Nat.succ.inj width) h'
      exact ⟨.word word forest, .word realizes realized, rfl, low⟩
    · cases h
  | .symbol name :: rest, given :: places, words, width, h => by
    unfold realizeElements at h
    obtain ⟨front, first, h⟩ := Search.exists_of_mem_items_bind h
    rw [Search.items_map] at h
    obtain ⟨words', h', rfl⟩ := List.mem_map.mp h
    obtain ⟨tree, realizes, rfl, low⟩ := sound first
    obtain ⟨forest, realized, rfl, low'⟩ :=
      exists_realizesEach_of_mem_realizeElements sound (Nat.succ.inj width) h'
    exact ⟨.tree tree forest, .tree realizes realized, rfl, Nat.max_le.mpr ⟨low, low'⟩⟩

/-- Whatever the search finds is realized by a tree, no higher than the budget, also
when the search has a fault. -/
theorem exists_realizes_of_mem_realize {limit : Nat} : ∀ {budget : Nat} {symbol : String}
    {fragment : Fragment} {words : List Word},
      words ∈ (g.realize limit budget symbol fragment).items →
        ∃ tree : Tree, g.Realizes tree symbol fragment ∧ tree.words = words ∧ tree.height ≤ budget
  | 0, _, _, _, h => by cases h
  | budget + 1, symbol, fragment, words, h => by
    rw [realize_succ] at h
    split at h
    · cases h
    · obtain ⟨rule, member, h⟩ := Search.exists_of_mem_items_each h
      obtain ⟨position, ruleAt⟩ := List.getElem?_of_mem member
      rw [Search.items, realizeBy] at h
      split at h
      · rename_i flat apart
        obtain ⟨forest, realized, rfl, low⟩ := exists_realizesEach_of_mem_realizeElements
          exists_realizes_of_mem_realize (Template.width_of_decompose apart) h
        exact ⟨.node position forest, .node ruleAt apart realized, rfl, Nat.succ_le_succ low⟩
      · cases h
      · cases h

/-! ### Without a fault all realizations are found -/

theorem enumerates_realizeElements
    (complete : ∀ {name fragment}, (sub name fragment).fault? = none →
      Enumerates Tree.Before (fun tree words => g.Realizes tree name fragment ∧ tree.words = words)
        (sub name fragment).items) :
    ∀ {elements : List Element} {places : List (Option Fragment)},
      places.length = elements.length → (realizeElements sub elements places).fault? = none →
        Enumerates Forest.Before
          (fun forest words => g.RealizesEach forest elements places ∧ forest.words = words)
          (realizeElements sub elements places).items
  | [], [], _, _ => .single fun forest words => by
    rw [realizesEach_nil_iff]
    refine and_congr_right fun empty => ?_
    rw [empty]
    exact eq_comm
  | .terminal terminal :: rest, given :: places, width, h => by
    unfold realizeElements at h ⊢
    dsimp only [List.head?_cons, Option.join_some, List.tail_cons] at h ⊢
    cases realizes : terminal.realize given with
    | ok word =>
      rw [realizes] at h
      dsimp only at h ⊢
      rw [Search.fault?_map] at h
      rw [Search.items_map]
      refine (enumerates_realizeElements complete (Nat.succ.inj width) h).map _ (.word word) .word
        fun {f words} => ?_
      rw [realizesEach_terminal_iff]
      constructor
      · rintro ⟨⟨word', forest, rfl, realizes', realized⟩, rfl⟩
        cases realizes.symm.trans realizes'
        exact ⟨forest, forest.words, rfl, ⟨realized, rfl⟩, rfl⟩
      · rintro ⟨forest, _, rfl, ⟨realized, rfl⟩, rfl⟩
        exact ⟨⟨word, forest, rfl, realizes, realized⟩, rfl⟩
    | error refusal =>
      refine .nil fun forest words h => ?_
      obtain ⟨word, rest, -, realizes', -⟩ := realizesEach_terminal_iff.mp h.1
      cases realizes.symm.trans realizes'
  | .symbol name :: rest, given :: places, width, h => by
    unfold realizeElements at h ⊢
    obtain ⟨first, later⟩ := Search.fault?_bind_eq_none.mp h
    rw [Search.items_bind _ _ h]
    have inner : ∀ front ∈ (sub name (given.getD (.value .null))).items, Enumerates Forest.Before
        (fun forest words => g.RealizesEach forest rest places ∧ front ++ forest.words = words)
        ((realizeElements sub rest places).map (front ++ ·)).items := by
      intro front member
      have later := later front member
      rw [Search.fault?_map] at later
      rw [Search.items_map]
      refine (enumerates_realizeElements complete (Nat.succ.inj width) later).map _ id id
        fun {f words} => ?_
      constructor
      · rintro ⟨realized, rfl⟩
        exact ⟨f, f.words, rfl, ⟨realized, rfl⟩, rfl⟩
      · rintro ⟨forest, _, rfl, ⟨realized, rfl⟩, rfl⟩
        exact ⟨realized, rfl⟩
    refine (complete first).flatMap inner .tree .head .rest fun {f words} => ?_
    rw [realizesEach_symbol_iff]
    constructor
    · rintro ⟨⟨head, forest, rfl, realizes, realized⟩, rfl⟩
      exact ⟨head, head.words, forest, rfl, ⟨realizes, rfl⟩, realized, rfl⟩
    · rintro ⟨head, _, forest, rfl, ⟨realizes, rfl⟩, realized, rfl⟩
      exact ⟨⟨head, forest, rfl, realizes, realized⟩, rfl⟩

/-- Trying a rule enumerates the forests that realize what its template gives them;
if the template does not fit, there are none. -/
theorem enumerates_realizeBy
    (complete : ∀ {name fragment}, (sub name fragment).fault? = none →
      Enumerates Tree.Before (fun tree words => g.Realizes tree name fragment ∧ tree.words = words)
        (sub name fragment).items)
    {rule : Rule} {fragment : Fragment} (h : (realizeBy sub rule fragment).fault? = none) :
    Enumerates Forest.Before
      (fun forest words => ∃ flat, rule.template.decompose rule.rhs.length fragment = .ok flat ∧
        g.RealizesEach forest rule.rhs flat.places ∧ forest.words = words)
      (realizeBy sub rule fragment).items := by
  unfold realizeBy at h ⊢
  cases apart : rule.template.decompose rule.rhs.length fragment with
  | ok flat =>
    rw [apart] at h
    simpa using enumerates_realizeElements complete (Template.width_of_decompose apart) h
  | error obstacle =>
    rw [apart] at h
    cases obstacle with
    | mismatch => exact .nil fun forest words => by simp
    | fault => cases h

/-- A search for realizations without a fault finds just the words of realization
trees, in the order of the trees. -/
theorem enumerates_realize {limit : Nat} : ∀ {budget : Nat} {symbol : String} {fragment : Fragment},
    (g.realize limit budget symbol fragment).fault? = none →
      Enumerates Tree.Before (fun tree words => g.Realizes tree symbol fragment ∧ tree.words = words)
        (g.realize limit budget symbol fragment).items
  | 0, _, _, h => by cases h
  | budget + 1, symbol, fragment, h => by
    rw [realize_succ] at h ⊢
    split at h
    · cases h
    · rw [Search.items_each h]
      have inner : ∀ rule ∈ g.rulesOf symbol, _ := fun rule member =>
        enumerates_realizeBy enumerates_realize (Search.fault?_each_eq_none.mp h rule member)
      refine (Enumerates.positions _).flatMap inner .node .rule .children fun {t words} => ?_
      constructor
      · rintro ⟨⟨ruleAt, apart, realized⟩, rfl⟩
        exact ⟨_, _, _, rfl, ruleAt, _, apart, realized, rfl⟩
      · rintro ⟨position, rule, forest, rfl, ruleAt, flat, apart, realized, rfl⟩
        exact ⟨.node ruleAt apart realized, rfl⟩

end Grammar

namespace Parser

theorem fault?_realize (p : Parser) (symbol : String) (value : Value) :
    (p.realize symbol value).fault? = (p.realizeSearch symbol value).fault? :=
  Search.fault?_feed _

theorem successes_realize (p : Parser) (symbol : String) (value : Value) :
    (p.realize symbol value).successes = (p.realizeSearch symbol value).items :=
  Search.successes_feed _

/-- Every sentence of a stream of realizations, also of one that comes to a fault, is
that of a tree in which no more symbols are nested than the parser allows. -/
theorem exists_low_realizes_of_mem_realize {p : Parser} {symbol : String} {value : Value}
    {words : List Word} (h : words ∈ (p.realize symbol value).successes) :
    ∃ tree : Tree, p.grammar.Realizes tree symbol (.value value) ∧ tree.words = words ∧
      tree.height ≤ p.maxDepth + 1 := by
  rw [successes_realize, realizeSearch_eq] at h
  exact Grammar.exists_realizes_of_mem_realize h

theorem exists_realizes_of_mem_realize {p : Parser} {symbol : String} {value : Value}
    {words : List Word} (h : words ∈ (p.realize symbol value).successes) :
    ∃ tree : Tree, p.grammar.Realizes tree symbol (.value value) ∧ tree.words = words := by
  obtain ⟨tree, realizes, whole, -⟩ := exists_low_realizes_of_mem_realize h
  exact ⟨tree, realizes, whole⟩

/-- A stream of realizations without a fault hands out the words of the realization
trees, in the order of the trees. -/
theorem enumerates_realize {p : Parser} {symbol : String} {value : Value}
    (h : (p.realize symbol value).fault? = none) :
    Enumerates Tree.Before
      (fun tree words => p.grammar.Realizes tree symbol (.value value) ∧ tree.words = words)
      (p.realize symbol value).successes := by
  rw [fault?_realize, realizeSearch_eq] at h
  rw [successes_realize, realizeSearch_eq]
  exact Grammar.enumerates_realize h

/-- Realizing enumerates realization trees: without a fault there is one sentence for
each of them, in the order of the trees, and with a fault what was found before still
is the sentence of such a tree. -/
theorem realize_enumerates_trees (p : Parser) (symbol : String) (value : Value) :
    ((p.realize symbol value).fault? = none →
      ∃ listed : List (Tree × List Word),
        listed.map Prod.snd = (p.realize symbol value).successes ∧
        (listed.map Prod.fst).Nodup ∧ listed.Pairwise (fun a b => Tree.Before a.1 b.1) ∧
        ∀ tree words, (tree, words) ∈ listed ↔
          p.grammar.Realizes tree symbol (.value value) ∧ tree.words = words) ∧
    ∀ words ∈ (p.realize symbol value).successes,
      ∃ tree, p.grammar.Realizes tree symbol (.value value) ∧ tree.words = words := by
  constructor
  · intro noFault
    exact (enumerates_realize noFault).nodup Tree.Before.irrefl
  · intro words found
    exact exists_realizes_of_mem_realize found

/-- A grammar in which the first rule of a symbol does not fit a list, and the second
leaves one of its two positions unset. -/
def choicesParser : Parser where
  grammar := ⟨[
    ⟨"s", [.symbol "a"], .record "Single" [.computed "a" (.slot 0 none)]⟩,
    ⟨"s", [.symbol "a", .symbol "a"], .list [.slot 0 none] []⟩,
    ⟨"a", [.terminal (.literal "x")], .slot 0 none⟩,
    ⟨"a", [.terminal (.literal "y")], .slot 0 none⟩]⟩
  complete := by decide
  maxDepth := 1

theorem realize_enumerates_choices :
    ∃ listed : List (Tree × List Word),
      listed.map Prod.snd =
        [[.marker "x", .marker "x"], [.marker "x", .marker "y"],
          [.marker "y", .marker "x"], [.marker "y", .marker "y"]] ∧
      (listed.map Prod.fst).Nodup ∧ listed.Pairwise (fun a b => Tree.Before a.1 b.1) ∧
      ∀ tree words, (tree, words) ∈ listed ↔
        choicesParser.grammar.Realizes tree "s" (.value (.list [.null])) ∧ tree.words = words :=
  (realize_enumerates_trees choicesParser "s" (.list [.null])).1 rfl

end Parser
end ReversibleGrammar
