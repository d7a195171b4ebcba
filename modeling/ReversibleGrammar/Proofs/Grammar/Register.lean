/-
# Rules filed by symbol

A register files rules in a table by symbol, and keeps a list of the symbols in the order in
which they came first. Both have to stay in step: a rule of a new symbol gets a row and an
entry at the end of the list, any other one goes to the end of its row. A second register is
added by filing its rules in the order in which it is read, symbol by symbol, which is not the
order in which they came. Still a register that is put together in any way, from nothing, by
filing rules and by adding others, holds just the rules that went in, and is read as the
grammar of these rules is. So none is lost, repeated or out of order, and adding is
associative.

Key definitions: `Register`, `Register.push`, `Register.rules`, `Register.Files`, `Assembly`.
Key theorems: `Register.files_push`, `Register.files_add`, `Assembly.files`,
`Assembly.registers_keep_rules`.
-/
import ReversibleGrammar.Proofs.Grammar.Order
import ReversibleGrammar.Proofs.NameSet
import ReversibleGrammar.Proofs.Table

namespace ReversibleGrammar

/-- Rules filed by symbol, and the symbols in the order in which they were first filed. -/
structure Register where
  filed : Table Rule
  order : List String

namespace Register

variable {r s : Register} {g h : Grammar} {name : String}

/-- The register without rules. -/
def empty : Register := ⟨∅, []⟩

/-- The rules of a symbol, if it has any. -/
def rulesOf? (r : Register) (name : String) : Option (List Rule) :=
  r.filed.lookup name

/-- Files a rule. -/
def push (r : Register) (rule : Rule) : Register where
  filed := r.filed.change rule.name (· ++ [rule])
  order := if rule.name ∈ r.filed then r.order else r.order ++ [rule.name]

/-- All rules, symbol by symbol. -/
def rules (r : Register) : List Rule :=
  (r.order.filterMap r.rulesOf?).flatten

/-- Files the rules of a second register, in the order in which that one is read. -/
instance : Add Register := ⟨fun r s => s.rules.foldl push r⟩

/-- The number of rules, counted row by row. -/
def size (r : Register) : Nat :=
  r.filed.size

/-- The symbols with a row. -/
def defined (r : Register) : NameSet :=
  .ofList r.filed.keys

/-- The symbols that some rule refers to. -/
def referenced (r : Register) : NameSet :=
  .ofList ((r.rules.flatMap Rule.rhs).filterMap Element.symbol?)

/-- The symbols that are referred to and have no row. -/
def missing (r : Register) : NameSet :=
  r.referenced.diff r.defined

/-! ### Registers of a grammar -/

/-- The register files the rules of the grammar. -/
structure Files (r : Register) (g : Grammar) : Prop where
  order : r.order = g.names
  mem_iff : ∀ name, name ∈ r.filed ↔ name ∈ g.defined
  row : ∀ name, r.filed.row name = g.rulesOf name
  size : r.size = g.size

theorem files_empty : empty.Files .empty where
  order := rfl
  mem_iff name := iff_of_false (AList.notMem_empty name) List.not_mem_nil
  row _ := rfl
  size := rfl

/-- **One rule more.** A rule filed in a register is one added to its grammar. -/
theorem files_push (files : r.Files g) (rule : Rule) : (r.push rule).Files (g.push rule) where
  order := by
    rw [Grammar.names_push, ← files.order]
    exact if_congr (files.mem_iff rule.name) rfl rfl
  mem_iff name := by
    rw [push, Table.mem_change, files.mem_iff, Grammar.mem_defined, Grammar.mem_defined, Grammar.push]
    simp only [List.mem_append, List.mem_singleton, or_and_right, exists_or, exists_eq_left]
    rw [or_comm, eq_comm]
  row name := by
    rw [push, Table.row_change, files.row, files.row, Grammar.rulesOf_push]
    by_cases same : name = rule.name
    · rw [if_pos same, if_pos same, same]
    · rw [if_neg same, if_neg same]
  size := by
    have changed := r.filed.size_change rule.name (· ++ [rule])
    rw [List.length_append, List.length_singleton] at changed
    have before : r.filed.size = g.rules.length := files.size
    show (r.filed.change rule.name (· ++ [rule])).size = (g.rules ++ [rule]).length
    rw [List.length_append, List.length_singleton]
    omega

theorem files_foldl_push (rules : List Rule) : ∀ {r : Register} {g : Grammar}, r.Files g →
    (rules.foldl push r).Files (rules.foldl Grammar.push g) := by
  induction rules with
  | nil => exact fun files => files
  | cons rule rules ih => exact fun files => ih (files_push files rule)

/-- A register of a grammar is one of every grammar with the same symbols and rules. -/
theorem Files.of_same (files : r.Files g) (same : Grammar.Same h g) (sizes : h.size = g.size) :
    r.Files h where
  order := files.order.trans same.names.symm
  mem_iff name := by rw [files.mem_iff, ← Grammar.mem_names, ← Grammar.mem_names, same.names]
  row name := (files.row name).trans (same.rulesOf name).symm
  size := files.size.trans sizes.symm

/-! ### Reading a register -/

theorem Files.rulesOf?_eq (files : r.Files g) (name : String) :
    r.rulesOf? name = if name ∈ g.defined then some (g.rulesOf name) else none := by
  rw [rulesOf?]
  by_cases mem : name ∈ g.defined
  · rw [if_pos mem, Table.lookup_eq_some_row ((files.mem_iff name).mpr mem), files.row]
  · rw [if_neg mem, AList.lookup_eq_none, files.mem_iff]
    exact mem

/-- A register is read as its grammar is, symbol by symbol. -/
theorem Files.rules_eq (files : r.Files g) : r.rules = g.ordered := by
  have found : ∀ name ∈ g.names, r.rulesOf? name = some (g.rulesOf name) := by
    intro name mem
    rw [files.rulesOf?_eq, if_pos (Grammar.mem_names.mp mem)]
  rw [rules, files.order, List.filterMap_congr found, Grammar.ordered, List.flatMap,
    List.filterMap_eq_map' (f := g.rulesOf)]

/-- **Adding registers.** What is added symbol by symbol is what would be added rule by rule. -/
theorem files_add (files : r.Files g) (files' : s.Files h) : (r + s).Files (g + h) := by
  have filed : (r + s).Files (h.ordered.foldl Grammar.push g) := by
    show (s.rules.foldl push r).Files _
    rw [files'.rules_eq]
    exact files_foldl_push h.ordered files
  refine filed.of_same (Grammar.same_add g h) ?_
  rw [Grammar.foldl_push, Grammar.size, Grammar.size]
  show (g.rules ++ h.rules).length = (g.rules ++ h.ordered).length
  rw [List.length_append, List.length_append, (Grammar.ordered_perm h).length_eq]

theorem Files.defined_eq (files : r.Files g) : r.defined = g.defined := by
  refine NameSet.ext fun name => ?_
  rw [defined, NameSet.mem_ofList, ← files.mem_iff]
  rfl

theorem Files.referenced_eq (files : r.Files g) : r.referenced = g.referenced := by
  refine NameSet.ext fun name => ?_
  have reads : name ∈ r.referenced ↔ name ∈ (⟨r.rules⟩ : Grammar).referenced := Iff.rfl
  rw [reads, Grammar.mem_referenced, Grammar.mem_referenced, files.rules_eq]
  simp only [Grammar.mem_ordered]

theorem Files.missing_eq (files : r.Files g) : r.missing = g.missing := by
  rw [missing, Grammar.missing, files.defined_eq, files.referenced_eq]

/-- The register holds the given rules and no others. Its symbols stand in the order in which
they came first, each once, and each has a row of its own rules, in the order in which they
came. -/
structure Holds (r : Register) (given : List Rule) : Prop where
  order : r.order = Grammar.firsts (given.map Rule.name)
  once : r.order.Nodup
  mem_order : ∀ name, name ∈ r.order ↔ name ∈ r.defined
  row : ∀ name rules, r.rulesOf? name = some rules → rules ≠ [] ∧ ∀ rule ∈ rules, rule.name = name
  perm : r.rules.Perm given
  grouped : r.rules = r.order.flatMap fun name => given.filter fun rule => rule.name == name
  size : r.size = given.length

/-- A register of a grammar holds its rules. -/
theorem Files.holds (files : r.Files g) : r.Holds g.rules where
  order := files.order
  once := by
    rw [files.order]
    exact Grammar.nodup_names g
  mem_order name := by rw [files.order, Grammar.mem_names, files.defined_eq]
  row name rules found := by
    rw [files.rulesOf?_eq] at found
    by_cases mem : name ∈ g.defined
    · rw [if_pos mem] at found
      have same : g.rulesOf name = rules := Option.some.inj found
      rw [← same]
      exact ⟨Grammar.rulesOf_ne_nil mem, fun rule there => (Grammar.mem_rulesOf.mp there).2⟩
    · rw [if_neg mem] at found
      cases found
  perm := by
    rw [files.rules_eq]
    exact Grammar.ordered_perm g
  grouped := by
    rw [files.rules_eq, files.order]
    rfl
  size := files.size

/-! ### Sums -/

/-- In a sum a symbol has its rules in the first register, then those in the second. -/
theorem Files.rulesOf?_add (files : r.Files g) (files' : s.Files h) (name : String) :
    (r + s).rulesOf? name = Option.merge (· ++ ·) (r.rulesOf? name) (s.rulesOf? name) := by
  rw [(files_add files files').rulesOf?_eq, files.rulesOf?_eq, files'.rulesOf?_eq, Grammar.rulesOf_add]
  by_cases left : name ∈ g.defined
  · rw [if_pos (Grammar.mem_defined_add.mpr (.inl left)), if_pos left]
    by_cases right : name ∈ h.defined
    · rw [if_pos right]
      rfl
    · rw [if_neg right, Grammar.rulesOf_eq_nil right, List.append_nil]
      rfl
  · rw [if_neg left, Grammar.rulesOf_eq_nil left, List.nil_append]
    by_cases right : name ∈ h.defined
    · rw [if_pos (Grammar.mem_defined_add.mpr (.inr right)), if_pos right]
      rfl
    · rw [if_neg right, if_neg fun mem => (Grammar.mem_defined_add.mp mem).elim left right]
      rfl

/-- A sum misses what either register refers to and neither defines. -/
theorem Files.mem_missing_add (files : r.Files g) (files' : s.Files h) :
    name ∈ (r + s).missing ↔ (name ∈ r.referenced ∨ name ∈ s.referenced) ∧
      ¬ (name ∈ r.defined ∨ name ∈ s.defined) := by
  rw [(files_add files files').missing_eq, Grammar.mem_missing, Grammar.mem_referenced_add,
    Grammar.mem_defined_add, files.referenced_eq, files'.referenced_eq, files.defined_eq,
    files'.defined_eq]

/-- The two registers are read alike. -/
structure Alike (r s : Register) : Prop where
  order : r.order = s.order
  row : ∀ name, r.rulesOf? name = s.rulesOf? name
  rules : r.rules = s.rules

/-- A grammar leaves nothing open in how a register of it is read. -/
theorem Files.alike (files : r.Files g) (files' : s.Files g) : r.Alike s where
  order := files.order.trans files'.order.symm
  row name := (files.rulesOf?_eq name).trans (files'.rulesOf?_eq name).symm
  rules := files.rules_eq.trans files'.rules_eq.symm

end Register

/-! ### Registers put together -/

/-- A way to put a register together: from nothing, by filing rules and adding registers. -/
inductive Assembly where
  | empty
  | push (a : Assembly) (rule : Rule)
  | add (a b : Assembly)

namespace Assembly

/-- The register that is put together. -/
def register : Assembly → Register
  | empty => .empty
  | push a rule => a.register.push rule
  | add a b => a.register + b.register

/-- The grammar that is put together in the same way. -/
def grammar : Assembly → Grammar
  | empty => .empty
  | push a rule => a.grammar.push rule
  | add a b => a.grammar + b.grammar

/-- The rules that went in, in the order in which they did. -/
def given : Assembly → List Rule
  | empty => []
  | push a rule => a.given ++ [rule]
  | add a b => a.given ++ b.given

theorem rules_grammar : ∀ a : Assembly, a.grammar.rules = a.given
  | empty => rfl
  | push a rule => congrArg (· ++ [rule]) (rules_grammar a)
  | add a b => congrArg₂ (· ++ ·) (rules_grammar a) (rules_grammar b)

/-- However it is put together, a register files the rules of the grammar that is put together
in the same way. -/
theorem files : ∀ a : Assembly, a.register.Files a.grammar
  | empty => Register.files_empty
  | push a rule => Register.files_push (files a) rule
  | add a b => Register.files_add (files a) (files b)

theorem holds (a : Assembly) : a.register.Holds a.given := by
  rw [← rules_grammar]
  exact (files a).holds

/-- Of how a register is put together, only the order of the rules is seen. -/
theorem alike_of_given {a b : Assembly} (same : a.given = b.given) : a.register.Alike b.register := by
  have grammars : a.grammar = b.grammar :=
    congrArg Grammar.mk ((rules_grammar a).trans (same.trans (rules_grammar b).symm))
  have files' : b.register.Files a.grammar := by
    rw [grammars]
    exact files b
  exact (files a).alike files'

/-- **No rule is lost.** A register holds the rules that went in and is read as their grammar
is. In a sum each symbol has its rules in the first register and then those in the second,
what is missing is what either refers to and neither defines, and sums are associative, the
register without rules being neutral. -/
theorem registers_keep_rules (a b c : Assembly) :
    a.register.Holds a.given ∧
    (a.register.Files a.grammar ∧ a.register.rules = a.grammar.ordered ∧
      a.register.missing = a.grammar.missing ∧ a.grammar.rules = a.given) ∧
    (∀ name, (a.register + b.register).rulesOf? name =
      Option.merge (· ++ ·) (a.register.rulesOf? name) (b.register.rulesOf? name)) ∧
    (a.register + b.register + c.register).Alike (a.register + (b.register + c.register)) ∧
    (Register.empty + a.register).Alike a.register ∧
    (a.register + Register.empty).Alike a.register ∧
    ∀ name, name ∈ (a.register + b.register).missing ↔
      (name ∈ a.register.referenced ∨ name ∈ b.register.referenced) ∧
        ¬ (name ∈ a.register.defined ∨ name ∈ b.register.defined) := by
  have agrees : a.register.Files a.grammar := files a
  have associative : ((a.add b).add c).register.Alike (a.add (b.add c)).register :=
    alike_of_given (List.append_assoc a.given b.given c.given)
  have neutralLeft : (empty.add a).register.Alike a.register := alike_of_given rfl
  have neutralRight : (a.add empty).register.Alike a.register :=
    alike_of_given (List.append_nil a.given)
  refine ⟨holds a, ⟨agrees, agrees.rules_eq, agrees.missing_eq, rules_grammar a⟩, ?_,
    associative, neutralLeft, neutralRight, ?_⟩
  · exact fun name => agrees.rulesOf?_add (files b) name
  · exact fun name => agrees.mem_missing_add (files b)

/-- The second register defines what the first one misses, and has another rule of its symbol. -/
example :
    let first := push empty ⟨"start", [.terminal (.literal "a"), .symbol "X"], .slot 1 none⟩
    let second := push (push empty ⟨"X", [.terminal (.literal "x")], .slot 0 none⟩)
      ⟨"start", [.terminal (.literal "b")], .slot 0 none⟩
    first.register.missing.toList = ["X"] ∧ (first.add second).register.missing.toList = [] ∧
      (first.add second).register.rules.map Rule.name = ["start", "start", "X"] := by decide

end Assembly

end ReversibleGrammar
