/-
# Graphs of names

A graph leads from each name to some others. The names that can be reached are
found by visiting one after the other. The arrows from a visited name are taken
away, so that it is expanded only once and the search ends on every cycle.

Key definitions: `Graph`, `Graph.ofRows`, `Graph.Arrow`, `Graph.Reaches`,
`Graph.visit`, `Graph.onCycle`.
Key theorems: `Graph.arrow_ofRows`, `Graph.mem_visit`, `Graph.onCycle_iff`.
-/
import Std.Data.TreeMap

namespace ReversibleGrammar

/-- Arrows between names: for each name, where those from it lead. -/
structure Graph where
  targets : Std.TreeMap String (List String)

namespace Graph

/-- The names at the ends of the arrows from a name. -/
def successors (g : Graph) (name : String) : List String :=
  g.targets[name]?.getD []

/-- An arrow leads from the first name to the second. -/
def Arrow (g : Graph) (a b : String) : Prop :=
  b ∈ g.successors a

/-- Some arrows, or none, lead from the first name to the second. -/
inductive Reaches (g : Graph) : String → String → Prop
  | here (a : String) : Reaches g a a
  | step {a b c : String} (arrow : g.Arrow a b) (rest : Reaches g b c) : Reaches g a c

/-! ### Rows -/

/-- Adds arrows from one name. -/
def add (g : Graph) (name : String) (more : List String) : Graph :=
  ⟨g.targets.insert name (more ++ g.successors name)⟩

/-- The graph of rows, each of which leads from a name to some others. -/
def ofRows : List (String × List String) → Graph
  | [] => ⟨∅⟩
  | (name, more) :: rows => (ofRows rows).add name more

theorem arrow_add {g : Graph} {name a b : String} {more : List String} :
    (g.add name more).Arrow a b ↔ name = a ∧ b ∈ more ∨ g.Arrow a b := by
  simp only [Arrow, successors, add, Std.TreeMap.getElem?_insert, Std.LawfulEqCmp.compare_eq_iff_eq]
  by_cases h : name = a <;> simp [h]

/-- The arrows of rows are those that some row has. -/
theorem arrow_ofRows {a b : String} : ∀ {rows : List (String × List String)},
    (ofRows rows).Arrow a b ↔ ∃ row ∈ rows, row.1 = a ∧ b ∈ row.2
  | [] => by simp [ofRows, Arrow, successors]
  | (name, more) :: rows => by simp [ofRows, arrow_add, @arrow_ofRows a b rows]

/-! ### Visiting -/

/-- The graph without the arrows from a name. -/
def without (g : Graph) (name : String) : Graph :=
  ⟨g.targets.erase name⟩

theorem arrow_without {g : Graph} {name a b : String} :
    (g.without name).Arrow a b ↔ g.Arrow a b ∧ a ≠ name := by
  simp only [Arrow, successors, without, Std.TreeMap.getElem?_erase, Std.LawfulEqCmp.compare_eq_iff_eq]
  by_cases h : name = a <;> simp [h, Ne.symm]

/-- Taking a name's arrows away leaves fewer names with arrows, or there were none. -/
theorem without_smaller (g : Graph) (name : String) :
    (g.without name).targets.size < g.targets.size ∨
      (g.without name).targets.size = g.targets.size ∧ g.successors name = [] := by
  simp only [without, Std.TreeMap.size_erase, Std.TreeMap.contains_iff_mem]
  by_cases h : name ∈ g.targets
  · have nonempty := Std.TreeMap.isEmpty_eq_false_of_contains (Std.TreeMap.contains_iff_mem.mpr h)
    rw [Std.TreeMap.isEmpty_eq_size_eq_zero, beq_eq_false_iff_ne] at nonempty
    rw [if_pos h]
    omega
  · rw [if_neg h, successors, Std.TreeMap.getElem?_eq_none h]
    exact .inr ⟨rfl, rfl⟩

/-- The names to visit and all that can be reached from them. -/
def visit (g : Graph) : List String → List String
  | [] => []
  | name :: todo => name :: (g.without name).visit (g.successors name ++ todo)
termination_by todo => (g.targets.size, todo.length)
decreasing_by
  rcases g.without_smaller name with fewer | ⟨same, noArrows⟩
  · exact Prod.Lex.left _ _ fewer
  · rw [same, noArrows]
    exact Prod.Lex.right _ (Nat.lt_succ_self _)

/-- Whether a name can be reached from itself along one arrow or more. -/
def onCycle (g : Graph) (name : String) : Bool :=
  (g.visit (g.successors name)).contains name

theorem Reaches.of_without {g : Graph} {name a b : String} (h : (g.without name).Reaches a b) :
    g.Reaches a b := by
  induction h with
  | here a => exact .here a
  | step arrow _ ih => exact .step (arrow_without.mp arrow).1 ih

/-- A way through the graph can be cut off where it last leaves a name. -/
theorem Reaches.cut {g : Graph} (name : String) {a b : String} (h : g.Reaches a b) :
    (g.without name).Reaches a b ∨ ∃ c, g.Arrow name c ∧ (g.without name).Reaches c b := by
  induction h with
  | here a => exact .inl (.here a)
  | @step a c b arrow _ ih =>
    rcases ih with direct | later
    · by_cases e : a = name
      · exact .inr ⟨c, e ▸ arrow, direct⟩
      · exact .inl (.step (arrow_without.mpr ⟨arrow, e⟩) direct)
    · exact .inr later

theorem Reaches.eq_of_without {g : Graph} {name b : String}
    (h : (g.without name).Reaches name b) : b = name := by
  cases h with
  | here => rfl
  | step arrow _ => exact absurd rfl (arrow_without.mp arrow).2

/-- A visit finds exactly what can be reached. -/
theorem mem_visit {g : Graph} {todo : List String} {x : String} :
    x ∈ g.visit todo ↔ ∃ name ∈ todo, g.Reaches name x := by
  fun_induction visit g todo with
  | case1 => simp
  | case2 g name todo ih =>
    rw [List.mem_cons, ih]
    constructor
    · rintro (rfl | ⟨other, mem, way⟩)
      · exact ⟨x, List.mem_cons_self, .here x⟩
      · rcases List.mem_append.mp mem with mem | mem
        · exact ⟨name, List.mem_cons_self, .step (mem) way.of_without⟩
        · exact ⟨other, List.mem_cons_of_mem _ mem, way.of_without⟩
    · rintro ⟨other, mem, way⟩
      rcases way.cut name with direct | ⟨next, arrow, way⟩
      · rcases List.mem_cons.mp mem with rfl | mem
        · exact .inl direct.eq_of_without
        · exact .inr ⟨other, List.mem_append_right _ mem, direct⟩
      · exact .inr ⟨next, List.mem_append_left _ (arrow), way⟩

/-- A name is on a cycle when an arrow from it leads to a name that reaches it. -/
theorem onCycle_iff {g : Graph} {name : String} :
    g.onCycle name = true ↔ ∃ next, g.Arrow name next ∧ g.Reaches next name := by
  simp only [onCycle, List.contains_iff_mem, mem_visit]
  rfl

end Graph

end ReversibleGrammar
