/-
# Reading a grammar symbol by symbol

A grammar is known by its symbols, in the order of their first rules, and by the rules of
each. Sorting the rules by symbol changes none of this: the symbols stand as before, each
has its rules as before, and sorted rules stay as they are when they are sorted again. So
it is the same whether the rules of a second grammar are added as they were written or
symbol by symbol.

Key definitions: `Grammar.Same`.
Key theorems: `Grammar.same_ordered`, `Grammar.ordered_ordered`, `Grammar.ordered_perm`,
`Grammar.ordered_map`, `Grammar.same_add`.
-/
import Mathlib.Data.List.Nodup
import ReversibleGrammar.Grammar

namespace ReversibleGrammar
namespace Grammar

variable {a b g : Grammar} {name : String}

/-- The two grammars have the same symbols in the same order, each with the same rules. -/
structure Same (a b : Grammar) : Prop where
  names : a.names = b.names
  rulesOf : ∀ name, a.rulesOf name = b.rulesOf name

theorem Same.ordered (h : Same a b) : a.ordered = b.ordered := by
  unfold Grammar.ordered
  rw [h.names, funext h.rulesOf]

/-! ### First occurrences -/

theorem mem_firsts {x : String} : ∀ {names : List String}, x ∈ firsts names ↔ x ∈ names
  | [] => Iff.rfl
  | first :: rest => by
    rw [firsts, List.mem_cons, List.mem_cons, List.mem_filter, mem_firsts]
    by_cases same : x = first
    · simp [same]
    · simp [same]

theorem firsts_append (l : List String) : ∀ front : List String,
    firsts (front ++ l) = firsts front ++ (firsts l).filter (· ∉ front)
  | [] => by simp [firsts]
  | name :: front => by
    rw [List.cons_append, firsts, firsts, firsts_append l front, List.filter_append, List.filter_filter,
      List.cons_append]
    congr 2
    apply List.filter_congr
    intro other _
    by_cases same : other = name <;> simp [same]

theorem nodup_firsts : ∀ l : List String, (firsts l).Nodup
  | [] => List.nodup_nil
  | name :: l => by
    rw [firsts, List.nodup_cons]
    refine ⟨?_, (nodup_firsts l).filter _⟩
    intro mem
    simp at mem

theorem nodup_names (g : Grammar) : g.names.Nodup :=
  nodup_firsts _

/-- Where one name is repeated, it is the only first occurrence. -/
theorem firsts_of_repeated {name : String} {l : List String} (notEmpty : l ≠ [])
    (repeated : ∀ other ∈ l, other = name) : firsts l = [name] := by
  obtain ⟨first, others, rfl⟩ := List.exists_cons_of_ne_nil notEmpty
  obtain ⟨rfl, repeated⟩ := List.forall_mem_cons.mp repeated
  rw [firsts, List.filter_eq_nil_iff.mpr]
  intro other mem
  rw [repeated other (mem_firsts.mp mem)]
  simp

/-- Of blocks that repeat one name each, the first occurrences are these names. -/
theorem firsts_flatMap {block : String → List String} : ∀ {l : List String}, l.Nodup →
    (∀ name ∈ l, block name ≠ [] ∧ ∀ other ∈ block name, other = name) →
      firsts (l.flatMap block) = l
  | [], _, _ => rfl
  | name :: l, distinct, blocks => by
    obtain ⟨⟨notEmpty, repeated⟩, others⟩ := List.forall_mem_cons.mp blocks
    obtain ⟨fresh, distinct'⟩ := List.nodup_cons.mp distinct
    -- No name comes twice, so the first block holds none of those behind it.
    have keep : l.filter (· ∉ block name) = l := by
      rw [List.filter_eq_self]
      intro other mem
      have apart : other ∉ block name := fun there => fresh (repeated other there ▸ mem)
      exact decide_eq_true apart
    rw [List.flatMap_cons, firsts_append, firsts_of_repeated notEmpty repeated,
      firsts_flatMap distinct' others, keep, List.singleton_append]

/-! ### Sorted rules -/

theorem mem_names : name ∈ g.names ↔ name ∈ g.defined := by
  rw [names, mem_firsts, mem_defined, List.mem_map]

theorem rulesOf_ne_nil (defined : name ∈ g.defined) : g.rulesOf name ≠ [] := by
  obtain ⟨rule, mem, isName⟩ := mem_defined.mp defined
  exact List.ne_nil_of_mem (mem_rulesOf.mpr ⟨mem, isName⟩)

theorem rulesOf_eq_nil (undefined : name ∉ g.defined) : g.rulesOf name = [] := by
  rw [List.eq_nil_iff_forall_not_mem]
  intro rule mem
  exact undefined (mem_defined.mpr ⟨rule, mem_rulesOf.mp mem⟩)

theorem names_ordered (g : Grammar) : (⟨g.ordered⟩ : Grammar).names = g.names := by
  have blocks : g.ordered.map Rule.name = g.names.flatMap fun name => (g.rulesOf name).map Rule.name :=
    List.map_flatMap
  rw [names, blocks]
  refine firsts_flatMap (nodup_names g) fun name mem => ⟨?_, ?_⟩
  · simpa using rulesOf_ne_nil (mem_names.mp mem)
  · intro other mem'
    obtain ⟨rule, there, rfl⟩ := List.mem_map.mp mem'
    exact (mem_rulesOf.mp there).2

theorem filter_rulesOf (g : Grammar) (name other : String) :
    (g.rulesOf other).filter (fun rule => rule.name == name) =
      if other = name then g.rulesOf name else [] := by
  split
  · rename_i same
    subst same
    rw [List.filter_eq_self]
    intro rule mem
    exact beq_iff_eq.mpr (mem_rulesOf.mp mem).2
  · rename_i apart
    rw [List.filter_eq_nil_iff]
    intro rule mem same
    exact apart ((mem_rulesOf.mp mem).2.symm.trans (beq_iff_eq.mp same))

/-- Among distinct names only one block is that of a given name. -/
theorem flatMap_ite_eq {name : String} {rules : List Rule} : ∀ {l : List String}, l.Nodup →
    (l.flatMap fun other => if other = name then rules else []) = if name ∈ l then rules else []
  | [], _ => rfl
  | other :: l, distinct => by
    obtain ⟨fresh, distinct'⟩ := List.nodup_cons.mp distinct
    rw [List.flatMap_cons, flatMap_ite_eq distinct']
    by_cases same : other = name
    · subst same
      simp [fresh]
    · simp [same, Ne.symm same]

theorem rulesOf_ordered (g : Grammar) (name : String) :
    (⟨g.ordered⟩ : Grammar).rulesOf name = g.rulesOf name := by
  have blocks : (⟨g.ordered⟩ : Grammar).rulesOf name =
      g.names.flatMap fun other => (g.rulesOf other).filter (fun rule => rule.name == name) :=
    List.filter_flatMap
  rw [blocks, funext (filter_rulesOf g name), flatMap_ite_eq (nodup_names g)]
  split
  · rfl
  · rename_i notMem
    rw [rulesOf_eq_nil fun defined => notMem (mem_names.mpr defined)]

/-- Sorting the rules by symbol changes neither the symbols nor their rules. -/
theorem same_ordered (g : Grammar) : Same ⟨g.ordered⟩ g :=
  ⟨names_ordered g, rulesOf_ordered g⟩

/-- Sorted rules stay as they are when they are sorted again. -/
theorem ordered_ordered (g : Grammar) : (⟨g.ordered⟩ : Grammar).ordered = g.ordered :=
  (same_ordered g).ordered

theorem mem_ordered {rule : Rule} : rule ∈ g.ordered ↔ rule ∈ g.rules := by
  have inBoth := (same_ordered g).rulesOf rule.name
  constructor
  · intro mem
    have there : rule ∈ (⟨g.ordered⟩ : Grammar).rulesOf rule.name := mem_rulesOf.mpr ⟨mem, rfl⟩
    rw [inBoth] at there
    exact (mem_rulesOf.mp there).1
  · intro mem
    have there : rule ∈ g.rulesOf rule.name := mem_rulesOf.mpr ⟨mem, rfl⟩
    rw [← inBoth] at there
    exact (mem_rulesOf.mp there).1

theorem ordered_ne_nil (notEmpty : g.rules ≠ []) : g.ordered ≠ [] := by
  obtain ⟨rule, mem⟩ := List.exists_mem_of_ne_nil _ notEmpty
  exact List.ne_nil_of_mem (mem_ordered.mpr mem)

/-- The blocks of distinct names hold the rules of these names, each as often as before. -/
theorem flatMap_rulesOf_perm (g : Grammar) : ∀ {l : List String}, l.Nodup →
    (l.flatMap g.rulesOf).Perm (g.rules.filter fun rule => decide (rule.name ∈ l))
  | [], _ => by simp
  | name :: l, distinct => by
    obtain ⟨fresh, distinct'⟩ := List.nodup_cons.mp distinct
    have later : (l.flatMap g.rulesOf).Perm (g.rules.filter fun rule => decide (rule.name ∈ l)) :=
      flatMap_rulesOf_perm g distinct'
    have split := List.filter_append_perm (fun rule : Rule => rule.name == name)
      (g.rules.filter fun rule => decide (rule.name ∈ name :: l))
    rw [List.filter_filter, List.filter_filter] at split
    have block : (g.rules.filter fun rule => rule.name == name && decide (rule.name ∈ name :: l)) =
        g.rulesOf name := by
      refine List.filter_congr fun rule _ => ?_
      by_cases here : rule.name = name <;> simp [here]
    have others : (g.rules.filter fun rule => !(rule.name == name) && decide (rule.name ∈ name :: l)) =
        g.rules.filter fun rule => decide (rule.name ∈ l) := by
      refine List.filter_congr fun rule _ => ?_
      by_cases here : rule.name = name
      · simp [here, fresh]
      · simp [here]
    rw [block, others] at split
    rw [List.flatMap_cons]
    exact (later.append_left _).trans split

/-- Sorting the rules by symbol loses none and repeats none. -/
theorem ordered_perm (g : Grammar) : g.ordered.Perm g.rules := by
  have all : (g.rules.filter fun rule => decide (rule.name ∈ g.names)) = g.rules := by
    refine List.filter_eq_self.mpr fun rule mem => decide_eq_true ?_
    exact mem_names.mpr (mem_defined.mpr ⟨rule, mem, rfl⟩)
  have blocks := flatMap_rulesOf_perm g (nodup_names g)
  rwa [all] at blocks

/-! ### Changed rules -/

/-- Rules that keep their symbols keep their places. -/
theorem ordered_map {f : Rule → Rule} (keeps : ∀ rule, (f rule).name = rule.name) (g : Grammar) :
    (⟨g.rules.map f⟩ : Grammar).ordered = g.ordered.map f := by
  have sameNames : (⟨g.rules.map f⟩ : Grammar).names = g.names := by
    unfold names
    rw [List.map_map]
    exact congrArg firsts (List.map_congr_left fun rule _ => keeps rule)
  have sameRules : ∀ name, (⟨g.rules.map f⟩ : Grammar).rulesOf name = (g.rulesOf name).map f := by
    intro name
    unfold rulesOf
    rw [List.filter_map]
    congr 1
    apply List.filter_congr
    intro rule _
    rw [Function.comp_apply, keeps rule]
  unfold ordered
  rw [sameNames, funext sameRules, List.map_flatMap]

/-! ### Sums -/

theorem names_add (a b : Grammar) : (a + b).names = a.names ++ b.names.filter (· ∉ a.rules.map Rule.name) := by
  have joined : (a + b).rules.map Rule.name = a.rules.map Rule.name ++ b.rules.map Rule.name :=
    List.map_append
  rw [names, joined, firsts_append]
  rfl

theorem names_push (g : Grammar) (rule : Rule) :
    (g.push rule).names = if rule.name ∈ g.defined then g.names else g.names ++ [rule.name] := by
  have named : rule.name ∈ g.rules.map Rule.name ↔ rule.name ∈ g.defined := by
    rw [List.mem_map, mem_defined]
  have sum : (g.push rule).names =
      g.names ++ [rule.name].filter (· ∉ g.rules.map Rule.name) := names_add g ⟨[rule]⟩
  rw [sum]
  by_cases mem : rule.name ∈ g.defined
  · have last : [rule.name].filter (· ∉ g.rules.map Rule.name) = [] := by
      rw [List.filter_eq_nil_iff, List.forall_mem_singleton]
      exact fun absent => of_decide_eq_true absent (named.mpr mem)
    rw [if_pos mem, last, List.append_nil]
  · have last : [rule.name].filter (· ∉ g.rules.map Rule.name) = [rule.name] := by
      rw [List.filter_eq_self, List.forall_mem_singleton]
      exact decide_eq_true (mt named.mp mem)
    rw [if_neg mem, last]

theorem rulesOf_push (g : Grammar) (rule : Rule) (name : String) :
    (g.push rule).rulesOf name = if name = rule.name then g.rulesOf name ++ [rule] else g.rulesOf name := by
  have sum : (g.push rule).rulesOf name = g.rulesOf name ++ (⟨[rule]⟩ : Grammar).rulesOf name :=
    rulesOf_add g ⟨[rule]⟩ name
  have single : (⟨[rule]⟩ : Grammar).rulesOf name = if name = rule.name then [rule] else [] := by
    by_cases same : name = rule.name
    · simp [rulesOf, same]
    · simp [rulesOf, same, Ne.symm same]
  rw [sum, single, apply_ite (g.rulesOf name ++ ·), List.append_nil]

theorem mem_defined_add : name ∈ (a + b).defined ↔ name ∈ a.defined ∨ name ∈ b.defined := by
  simp only [mem_defined, ← exists_or, ← or_and_right]
  exact exists_congr fun rule => and_congr_left' List.mem_append

theorem mem_referenced_add :
    name ∈ (a + b).referenced ↔ name ∈ a.referenced ∨ name ∈ b.referenced := by
  simp only [mem_referenced, ← exists_or, ← or_and_right]
  exact exists_congr fun rule => and_congr_left' List.mem_append

theorem foldl_push (rules : List Rule) : ∀ a : Grammar, rules.foldl push a = a + ⟨rules⟩ := by
  induction rules with
  | nil => intro a; exact congrArg Grammar.mk (List.append_nil a.rules).symm
  | cons rule rules ih =>
    intro a
    rw [List.foldl_cons, ih]
    exact congrArg Grammar.mk (List.append_assoc a.rules [rule] rules)

/-- Adding the rules of a grammar as they were written and adding them symbol by symbol
make the same grammar. -/
theorem same_add (a b : Grammar) : Same (a + b) (b.ordered.foldl push a) := by
  rw [foldl_push]
  constructor
  · rw [names_add, names_add, names_ordered]
  · intro name
    rw [rulesOf_add, rulesOf_add, rulesOf_ordered]

end Grammar
end ReversibleGrammar
