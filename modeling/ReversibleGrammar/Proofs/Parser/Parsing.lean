/-
# Parsing enumerates derivations

What the search for derivations finds are values of derivation trees over a
front of the sentence, each with the words that the tree leaves. If the search
has no fault it finds those of all derivation trees, each once and in the order
of trees, however deep they are nested, and every tree that fits is a derivation
tree. A parse is what leaves no words.

Key theorems: `Grammar.exists_derives_of_mem_derive`, `Grammar.enumerates_derive`,
`Grammar.exists_derives_of_fits`, `Parser.parse_enumerates_derivations`.
-/
import ReversibleGrammar.Parser.Derivations
import ReversibleGrammar.Proofs.Enumeration
import ReversibleGrammar.Proofs.Search.Outcome
import ReversibleGrammar.Proofs.Tree.Derivation

namespace ReversibleGrammar
namespace Grammar

variable {g : Grammar} {sub : String → List Word → Search SearchFault (Value × List Word)}

/-- A symbol with rules is derived by them in turn. -/
theorem derive_of_rules {limit budget : Nat} {symbol : String} {words : List Word}
    (someRules : g.rulesOf symbol ≠ []) :
    g.derive limit (budget + 1) symbol words =
      Search.each (fun rule => .trial fun _ =>
        (matchElements (g.derive limit budget) rule.rhs words).bind fun r => buildBy rule r.1 r.2)
        (g.rulesOf symbol) := by
  rw [derive]
  split
  · contradiction
  · rfl

/-! ### Found values are derived -/

theorem exists_derivesEach_of_mem_matchElements
    (sound : ∀ {name words r}, r ∈ (sub name words).items →
      ∃ tree : Tree, g.Derives tree name r.1 ∧ tree.words ++ r.2 = words) :
    ∀ {elements : List Element} {words : List Word} {r : List Value × List Word},
      r ∈ (matchElements sub elements words).items →
        ∃ forest : Forest, g.DerivesEach forest elements r.1 ∧ forest.words ++ r.2 = words
  | [], words, r, h => by
    obtain rfl := List.mem_singleton.mp h
    exact ⟨.nil, .nil, rfl⟩
  | .terminal _ :: _, [], _, h => by cases h
  | .terminal terminal :: rest, word :: words, r, h => by
    unfold matchElements at h
    split at h
    · rename_i accepted
      rw [Search.items_map] at h
      obtain ⟨r', h', rfl⟩ := List.mem_map.mp h
      obtain ⟨forest, derived, front⟩ := exists_derivesEach_of_mem_matchElements sound h'
      exact ⟨.word word forest, .word accepted derived, congrArg (word :: ·) front⟩
    · cases h
  | .symbol name :: rest, words, r, h => by
    unfold matchElements at h
    obtain ⟨⟨value, left⟩, first, h⟩ := Search.exists_of_mem_items_bind h
    rw [Search.items_map] at h
    obtain ⟨r', h', rfl⟩ := List.mem_map.mp h
    obtain ⟨tree, derives, front⟩ := sound first
    obtain ⟨forest, derived, front'⟩ := exists_derivesEach_of_mem_matchElements sound h'
    refine ⟨.tree tree forest, .tree derives derived, ?_⟩
    rw [Forest.words, List.append_assoc, front', front]

/-- What a rule builds from children, if its template does not fail. -/
def built? (rule : Rule) (r : List Value × List Word) : Option (Value × List Word) :=
  (rule.template.build r.1).toOption.map fun value => (value, r.2)

theorem built?_eq_some {rule : Rule} {r : List Value × List Word} {r' : Value × List Word} :
    built? rule r = some r' ↔ rule.template.build r.1 = .ok r'.1 ∧ r'.2 = r.2 := by
  unfold built?
  cases rule.template.build r.1 <;> simp [Except.toOption, Prod.ext_iff, eq_comm]

theorem items_buildBy (rule : Rule) (r : List Value × List Word) :
    (buildBy rule r.1 r.2).items = (built? rule r).toList := by
  unfold buildBy built?
  cases rule.template.build r.1 <;> rfl

theorem build_of_fault?_buildBy {rule : Rule} {children : List Value} {left : List Word}
    (h : (buildBy rule children left).fault? = none) :
    ∃ value, rule.template.build children = .ok value := by
  unfold buildBy at h
  split at h
  · rename_i value built
    exact ⟨value, built⟩
  · cases h

/-- Whatever the search finds is derived by a tree, also when it has a fault. -/
theorem exists_derives_of_mem_derive {limit : Nat} : ∀ {budget : Nat} {symbol : String}
    {words : List Word} {r : Value × List Word}, r ∈ (g.derive limit budget symbol words).items →
      ∃ tree : Tree, g.Derives tree symbol r.1 ∧ tree.words ++ r.2 = words
  | 0, _, _, _, h => by cases h
  | budget + 1, symbol, words, r, h => by
    unfold derive at h
    split at h
    · cases h
    · obtain ⟨rule, member, h⟩ := Search.exists_of_mem_items_each h
      obtain ⟨position, ruleAt⟩ := List.getElem?_of_mem member
      obtain ⟨r', h', h⟩ := Search.exists_of_mem_items_bind h
      rw [items_buildBy, Option.mem_toList] at h
      obtain ⟨built, sameLeft⟩ := built?_eq_some.mp h
      obtain ⟨forest, derived, front⟩ :=
        exists_derivesEach_of_mem_matchElements exists_derives_of_mem_derive h'
      rw [← sameLeft] at front
      exact ⟨.node position forest, .node ruleAt derived built, front⟩

/-! ### Without a fault all derivations are found -/

theorem enumerates_matchElements
    (complete : ∀ {name words}, (sub name words).fault? = none →
      Enumerates Tree.Before (fun tree r => g.Derives tree name r.1 ∧ tree.words ++ r.2 = words)
        (sub name words).items) :
    ∀ {elements : List Element} {words : List Word},
      (matchElements sub elements words).fault? = none →
        Enumerates Forest.Before
          (fun forest r => g.DerivesEach forest elements r.1 ∧ forest.words ++ r.2 = words)
          (matchElements sub elements words).items
  | [], words, _ => .single fun forest (values, left) => by
    rw [derivesEach_nil_iff, Prod.mk.injEq, and_assoc]
    refine and_congr_right fun empty => and_congr_right fun _ => ?_
    rw [empty]
    rfl
  | .terminal _ :: _, [], _ => by
    refine .nil fun forest r h => ?_
    obtain ⟨word, rest, -, front, -⟩ := derivesEach_terminal_iff.mp h.1
    rw [front] at h
    cases h.2
  | .terminal terminal :: rest, word :: words, h => by
    unfold matchElements at h ⊢
    by_cases accepted : terminal.accepts word = true
    · rw [if_pos accepted] at h ⊢
      rw [Search.fault?_map] at h
      rw [Search.items_map]
      refine (enumerates_matchElements complete h).map _ (.word word) .word fun {f r} => ?_
      rw [derivesEach_terminal_iff]
      constructor
      · rintro ⟨⟨word', forest, values, rfl, isValues, -, derived⟩, front⟩
        cases front
        exact ⟨forest, (values, r.2), rfl, ⟨derived, rfl⟩, Prod.ext isValues.symm rfl⟩
      · rintro ⟨forest, r', rfl, ⟨derived, front⟩, rfl⟩
        exact ⟨⟨word, forest, r'.1, rfl, rfl, accepted, derived⟩, congrArg (word :: ·) front⟩
    · rw [if_neg accepted]
      refine .nil fun forest r h => ?_
      obtain ⟨derived, front⟩ := h
      obtain ⟨word', rest', -, rfl, -, accepted', -⟩ := derivesEach_terminal_iff.mp derived
      cases front
      exact accepted accepted'
  | .symbol name :: rest, words, h => by
    unfold matchElements at h ⊢
    obtain ⟨first, later⟩ := Search.fault?_bind_eq_none.mp h
    rw [Search.items_bind _ _ h]
    have inner : ∀ r ∈ (sub name words).items, Enumerates Forest.Before
        (fun forest r' => ∃ values, g.DerivesEach forest rest values ∧
          forest.words ++ r'.2 = r.2 ∧ r'.1 = r.1 :: values)
        ((matchElements sub rest r.2).map fun r' => (r.1 :: r'.1, r'.2)).items := by
      intro r member
      have later := later r member
      rw [Search.fault?_map] at later
      rw [Search.items_map]
      refine (enumerates_matchElements complete later).map _ id id fun {f r'} => ?_
      constructor
      · rintro ⟨values, derived, front, isValues⟩
        exact ⟨f, (values, r'.2), rfl, ⟨derived, front⟩, Prod.ext isValues.symm rfl⟩
      · rintro ⟨forest, r'', rfl, ⟨derived, front⟩, rfl⟩
        exact ⟨r''.1, derived, front, rfl⟩
    refine (complete first).flatMap inner .tree .head .rest fun {f r} => ?_
    rw [derivesEach_symbol_iff]
    constructor
    · rintro ⟨⟨head, forest, value, values, rfl, isValues, derives, derived⟩, front⟩
      refine ⟨head, (value, forest.words ++ r.2), forest, rfl, ⟨derives, ?_⟩,
        values, derived, rfl, isValues⟩
      rw [← front, Forest.words, List.append_assoc]
    · rintro ⟨tree, r', forest, rfl, ⟨derives, front⟩, values, derived, front', isValues⟩
      refine ⟨⟨tree, forest, r'.1, values, rfl, isValues, derives, derived⟩, ?_⟩
      rw [Forest.words, List.append_assoc, front', front]

/-- Trying a rule enumerates the forests of its elements from which its template builds. -/
theorem enumerates_trial
    (complete : ∀ {name words}, (sub name words).fault? = none →
      Enumerates Tree.Before (fun tree r => g.Derives tree name r.1 ∧ tree.words ++ r.2 = words)
        (sub name words).items)
    {rule : Rule} {words : List Word}
    (h : ((matchElements sub rule.rhs words).bind fun (children, left) =>
      buildBy rule children left).fault? = none) :
    Enumerates Forest.Before
      (fun forest r => ∃ children, g.DerivesEach forest rule.rhs children ∧
        rule.template.build children = .ok r.1 ∧ forest.words ++ r.2 = words)
      ((matchElements sub rule.rhs words).bind fun (children, left) =>
        buildBy rule children left).items := by
  have matched := (Search.fault?_bind_eq_none.mp h).1
  rw [Search.items_bind _ _ h]
  refine (enumerates_matchElements complete matched).choose (built? rule)
    (fun r _ => items_buildBy rule r) id id fun {f r} => ?_
  constructor
  · rintro ⟨children, derived, built, front⟩
    exact ⟨f, (children, r.2), rfl, ⟨derived, front⟩, built?_eq_some.mpr ⟨built, rfl⟩⟩
  · rintro ⟨f, r', rfl, ⟨derived, front⟩, yields⟩
    obtain ⟨built, sameLeft⟩ := built?_eq_some.mp yields
    rw [← sameLeft] at front
    exact ⟨r'.1, derived, built, front⟩

/-- A search for derivations without a fault finds just what derivation trees over
the front of the sentence derive, in the order of the trees. -/
theorem enumerates_derive {limit : Nat} : ∀ {budget : Nat} {symbol : String} {words : List Word},
    (g.derive limit budget symbol words).fault? = none →
      Enumerates Tree.Before (fun tree r => g.Derives tree symbol r.1 ∧ tree.words ++ r.2 = words)
        (g.derive limit budget symbol words).items
  | 0, _, _, h => by cases h
  | budget + 1, symbol, words, h => by
    unfold derive at h ⊢
    split at h
    · cases h
    · rw [Search.items_each h]
      have inner : ∀ rule ∈ g.rulesOf symbol, _ := fun rule member =>
        enumerates_trial enumerates_derive (Search.fault?_each_eq_none.mp h rule member)
      refine (Enumerates.positions _).flatMap inner .node .rule .children fun {t r} => ?_
      constructor
      · rintro ⟨⟨ruleAt, derived, built⟩, front⟩
        exact ⟨_, _, _, rfl, ruleAt, _, derived, built, front⟩
      · rintro ⟨position, rule, forest, rfl, ruleAt, children, derived, built, front⟩
        exact ⟨.node ruleAt derived built, front⟩

/-! ### Without a fault every tree that fits derives a value -/

theorem exists_derivesEach_of_fitsEach
    (complete : ∀ {name words}, (sub name words).fault? = none →
      Enumerates Tree.Before (fun tree r => g.Derives tree name r.1 ∧ tree.words ++ r.2 = words)
        (sub name words).items)
    (ofFits : ∀ {name words left tree}, (sub name words).fault? = none → g.Fits tree name →
      tree.words ++ left = words → ∃ value, g.Derives tree name value)
    {left : List Word} : ∀ {elements : List Element} {words : List Word} {forest : Forest},
      (matchElements sub elements words).fault? = none → g.FitsEach forest elements →
        forest.words ++ left = words → ∃ values, g.DerivesEach forest elements values
  | [], _, _, _, fits, _ => by
    cases fits
    exact ⟨[], .nil⟩
  | .terminal terminal :: rest, _, _, h, fits, front => by
    cases fits with
    | word accepted fits =>
      subst front
      rw [Forest.words, List.cons_append, matchElements, if_pos accepted, Search.fault?_map] at h
      obtain ⟨values, derived⟩ := exists_derivesEach_of_fitsEach complete ofFits h fits rfl
      exact ⟨_, .word accepted derived⟩
  | .symbol name :: rest, words, _, h, fits, front => by
    cases fits with
    | @tree _ head others _ first fits =>
      rw [matchElements] at h
      obtain ⟨noFault, later⟩ := Search.fault?_bind_eq_none.mp h
      rw [Forest.words, List.append_assoc] at front
      obtain ⟨value, derives⟩ := ofFits noFault first front
      have found : (value, others.words ++ left) ∈ (sub name words).items :=
        (complete noFault).mem_iff.mpr ⟨head, derives, front⟩
      have later := later _ found
      rw [Search.fault?_map] at later
      obtain ⟨values, derived⟩ := exists_derivesEach_of_fitsEach complete ofFits later fits rfl
      exact ⟨_, .tree derives derived⟩

/-- A search without a fault has tried each tree that fits a front of the sentence,
so every template in it has built a value. -/
theorem exists_derives_of_fits {limit : Nat} : ∀ {budget : Nat} {symbol : String}
    {words left : List Word} {tree : Tree}, (g.derive limit budget symbol words).fault? = none →
      g.Fits tree symbol → tree.words ++ left = words → ∃ value, g.Derives tree symbol value
  | 0, _, _, _, _, h, _, _ => by cases h
  | budget + 1, symbol, words, left, _, h, .node ruleAt fits, front => by
    unfold derive at h
    split at h
    · cases h
    · have noFault := Search.fault?_each_eq_none.mp h _ (List.mem_of_getElem? ruleAt)
      obtain ⟨matched, builds⟩ := Search.fault?_bind_eq_none.mp noFault
      obtain ⟨children, derived⟩ := exists_derivesEach_of_fitsEach enumerates_derive
        exists_derives_of_fits matched fits front
      -- The forest is among what the elements matched, so the template was tried on it.
      have found : (children, left) ∈ (matchElements (g.derive limit budget) _ words).items :=
        (enumerates_matchElements enumerates_derive matched).mem_iff.mpr ⟨_, derived, front⟩
      obtain ⟨value, built⟩ := build_of_fault?_buildBy (builds _ found)
      exact ⟨value, .node ruleAt derived built⟩

end Grammar

namespace Parser

theorem fault?_parse (p : Parser) (symbol : String) (words : List Word) :
    (p.parse symbol words).fault? = (p.parseSearch symbol words).fault? :=
  Search.fault?_feed _

theorem successes_parse (p : Parser) (symbol : String) (words : List Word) :
    (p.parse symbol words).successes = (p.parseSearch symbol words).items :=
  Search.successes_feed _

/-- Every value of a stream of parses, also of one that comes to a fault, is derived by a
tree over the whole sentence. -/
theorem exists_derives_of_mem_parse {p : Parser} {symbol : String} {words : List Word} {value : Value}
    (h : value ∈ (p.parse symbol words).successes) :
    ∃ tree : Tree, p.grammar.Derives tree symbol value ∧ tree.words = words := by
  rw [successes_parse, parseSearch_eq] at h
  obtain ⟨⟨value', left⟩, found, h⟩ := Search.exists_of_mem_items_bind h
  obtain ⟨tree, derives, front⟩ := Grammar.exists_derives_of_mem_derive found
  dsimp only at h
  split at h
  · rename_i nothingLeft
    obtain rfl := List.mem_singleton.mp h
    rw [List.isEmpty_iff.mp nothingLeft, List.append_nil] at front
    exact ⟨tree, derives, front⟩
  · cases h

/-- Parsing has the fault of the search for what the symbol derives from the front of the
sentence; to pass over what leaves words adds none. -/
theorem fault?_parse_eq_derive (p : Parser) (symbol : String) (words : List Word) :
    (p.parse symbol words).fault? =
      (p.grammar.derive p.maxDepth (p.maxDepth + 1) symbol words).fault? := by
  rw [fault?_parse, parseSearch_eq]
  refine Search.fault?_bind_of_faultless (fun r => ?_) _
  obtain ⟨value, _ | ⟨word, left⟩⟩ := r
  · rfl
  · rfl

theorem fault?_derive_of_parse {p : Parser} {symbol : String} {words : List Word}
    (h : (p.parse symbol words).fault? = none) :
    (p.grammar.derive p.maxDepth (p.maxDepth + 1) symbol words).fault? = none := by
  rw [← fault?_parse_eq_derive]
  exact h

/-- A stream of parses without a fault hands out the values of the derivation trees
over the whole sentence, in the order of the trees. -/
theorem enumerates_parse {p : Parser} {symbol : String} {words : List Word}
    (h : (p.parse symbol words).fault? = none) :
    Enumerates Tree.Before (fun tree value => p.grammar.Derives tree symbol value ∧ tree.words = words)
      (p.parse symbol words).successes := by
  have derived := Grammar.enumerates_derive (fault?_derive_of_parse h)
  rw [fault?_parse, parseSearch_eq] at h
  rw [successes_parse, parseSearch_eq, Search.items_bind _ _ h]
  refine derived.choose (fun r => if r.2 = [] then some r.1 else none) (fun r _ => ?_) id id
    fun {tree value} => ?_
  · obtain ⟨value, _ | ⟨word, left⟩⟩ := r <;> rfl
  · constructor
    · rintro ⟨derives, whole⟩
      exact ⟨tree, (value, []), rfl, ⟨derives, by rw [whole, List.append_nil]⟩, rfl⟩
    · rintro ⟨tree, ⟨value', left⟩, rfl, ⟨derives, front⟩, yields⟩
      obtain ⟨rfl, rfl⟩ : left = [] ∧ value' = value := by simpa using yields
      rw [List.append_nil] at front
      exact ⟨derives, front⟩

/-- A stream of parses without a fault hands out a value for each tree that fits. -/
theorem exists_mem_parse_of_fits {p : Parser} {symbol : String} {tree : Tree}
    (noFault : (p.parse symbol tree.words).fault? = none) (fits : p.grammar.Fits tree symbol) :
    ∃ value ∈ (p.parse symbol tree.words).successes, p.grammar.Derives tree symbol value := by
  have searched := fault?_derive_of_parse noFault
  have front : tree.words ++ [] = tree.words := List.append_nil _
  obtain ⟨value, derives⟩ := Grammar.exists_derives_of_fits searched fits front
  exact ⟨value, (enumerates_parse noFault).mem_iff.mpr ⟨tree, derives, rfl⟩, derives⟩

/-- Parsing enumerates derivations: without a fault there is one value for each
derivation tree over the whole sentence, in the order of the trees, and with a fault
what was found before still is the value of such a tree. -/
theorem parse_enumerates_derivations (p : Parser) (symbol : String) (words : List Word) :
    ((p.parse symbol words).fault? = none →
      ∃ listed : List (Tree × Value), listed.map Prod.snd = (p.parse symbol words).successes ∧
        (listed.map Prod.fst).Nodup ∧ listed.Pairwise (fun a b => Tree.Before a.1 b.1) ∧
        ∀ tree value, (tree, value) ∈ listed ↔
          p.grammar.Derives tree symbol value ∧ tree.words = words) ∧
    ∀ value ∈ (p.parse symbol words).successes,
      ∃ tree, p.grammar.Derives tree symbol value ∧ tree.words = words := by
  constructor
  · intro noFault
    exact (enumerates_parse noFault).nodup Tree.Before.irrefl
  · intro value found
    exact exists_derives_of_mem_parse found

/-- A grammar in which two symbols that may be empty stand side by side, so that a
sentence of one word has two derivations. -/
def besideParser : Parser where
  grammar := ⟨[
    ⟨"s", [.symbol "a", .symbol "a"], .list [.slot 0 none, .slot 1 none] []⟩,
    ⟨"a", [], .empty⟩,
    ⟨"a", [.terminal (.literal "x")], .slot 0 none⟩]⟩
  complete := by decide
  maxDepth := 1

theorem parse_enumerates_beside :
    ∃ listed : List (Tree × Value),
      listed.map Prod.snd =
        [.list [.null, .word (.marker "x")], .list [.word (.marker "x"), .null]] ∧
      (listed.map Prod.fst).Nodup ∧ listed.Pairwise (fun a b => Tree.Before a.1 b.1) ∧
      ∀ tree value, (tree, value) ∈ listed ↔
        besideParser.grammar.Derives tree "s" value ∧ tree.words = [.marker "x"] :=
  (parse_enumerates_derivations besideParser "s" [.marker "x"]).1 rfl

end Parser
end ReversibleGrammar
