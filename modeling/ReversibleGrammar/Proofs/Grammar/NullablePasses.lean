/-
# Nullable symbols in passes

The nullable symbols can be found in passes over the rules. A pass looks at one rule after
the other and adds its symbol as soon as it has known symbols only, so that the rules after
it are judged by what it has added. The passes end when one of them has added nothing. Then
every rule of known symbols has a known symbol itself, and nothing has been added but what
such rules make nullable: the passes find the closure of the rules, whatever their order.

Key definitions: `Grammar.pass`, `Grammar.passes`, `Grammar.nullableInPasses`.
Key theorems: `Grammar.closed_of_pass_eq`, `Grammar.closed_passes`,
`Grammar.nullableInPasses_eq`.
-/
import ReversibleGrammar.Proofs.Grammar.Nullable
import ReversibleGrammar.Proofs.Grammar.Order
import ReversibleGrammar.Proofs.NameSet

namespace ReversibleGrammar
namespace Grammar

variable {rules : List Rule} {rule : Rule} {known : List String}

/-! ### One pass -/

/-- Whether an element is a known symbol. -/
def isKnown (known : List String) : Element → Bool
  | .symbol name => known.contains name
  | .terminal _ => false

/-- Adds the symbol of a rule that has known symbols only. -/
def note (known : List String) (rule : Rule) : List String :=
  if rule.name ∉ known ∧ rule.rhs.all (isKnown known) = true then rule.name :: known else known

/-- One pass over rules. -/
def pass (rules : List Rule) (known : List String) : List String :=
  rules.foldl note known

theorem isKnown_iff {element : Element} :
    isKnown known element = true ↔ ∃ name, element = .symbol name ∧ name ∈ known := by
  cases element <;> simp [isKnown]

theorem all_isKnown_iff {elements : List Element} :
    elements.all (isKnown known) = true ↔ SymbolsOnly (· ∈ known) elements := by
  simp only [List.all_eq_true, isKnown_iff, SymbolsOnly]

theorem note_cases (known : List String) (rule : Rule) :
    (rule.name ∉ known ∧ SymbolsOnly (· ∈ known) rule.rhs ∧ note known rule = rule.name :: known) ∨
      (SymbolsOnly (· ∈ known) rule.rhs → rule.name ∈ known) ∧ note known rule = known := by
  rw [← all_isKnown_iff, note]
  by_cases new : rule.name ∉ known ∧ rule.rhs.all (isKnown known) = true
  · exact .inl ⟨new.1, new.2, if_pos new⟩
  · refine .inr ⟨fun each => ?_, if_neg new⟩
    by_contra absent
    exact new ⟨absent, each⟩

theorem pass_cons (rule : Rule) (rest : List Rule) (known : List String) :
    pass (rule :: rest) known = pass rest (note known rule) := rfl

theorem suffix_note (known : List String) (rule : Rule) : known <:+ note known rule := by
  rcases note_cases known rule with ⟨-, -, step⟩ | ⟨-, step⟩
  · exact ⟨[rule.name], step.symm⟩
  · exact ⟨[], step.symm⟩

/-- A pass keeps what is known. -/
theorem suffix_pass : ∀ (rules : List Rule) (known : List String), known <:+ pass rules known
  | [], _ => List.suffix_refl _
  | rule :: rest, known => (suffix_note known rule).trans (suffix_pass rest (note known rule))

/-- What rules pass on to their symbols, a pass passes on to all that it adds. -/
theorem pass_induction {P : String → Prop} : ∀ {rules : List Rule} {known : List String},
    (∀ rule ∈ rules, SymbolsOnly P rule.rhs → P rule.name) → (∀ name ∈ known, P name) →
      ∀ name ∈ pass rules known, P name
  | [], _, _, held => held
  | rule :: rest, known, step, held => by
    obtain ⟨here, later⟩ := List.forall_mem_cons.mp step
    rw [pass_cons]
    refine pass_induction later ?_
    rcases note_cases known rule with ⟨-, each, noted⟩ | ⟨-, noted⟩
    · rw [noted, List.forall_mem_cons]
      refine ⟨here fun element mem => ?_, held⟩
      obtain ⟨name, isSymbol, isKnown⟩ := each element mem
      exact ⟨name, isSymbol, held name isKnown⟩
    · rw [noted]
      exact held

/-- A pass that adds something adds the symbol of a rule. -/
theorem exists_new_of_pass_ne : ∀ {rules : List Rule} {known : List String},
    pass rules known ≠ known → ∃ rule ∈ rules, rule.name ∉ known ∧ rule.name ∈ pass rules known
  | [], _, changed => absurd rfl changed
  | rule :: rest, known, changed => by
    rcases note_cases known rule with ⟨new, -, noted⟩ | ⟨-, noted⟩
    · refine ⟨rule, List.mem_cons_self, new, (suffix_pass rest (note known rule)).subset ?_⟩
      rw [noted]
      exact List.mem_cons_self
    · rw [pass_cons, noted] at changed ⊢
      obtain ⟨other, mem, new, added⟩ := exists_new_of_pass_ne changed
      exact ⟨other, List.mem_cons_of_mem _ mem, new, added⟩

/-- Rules of known symbols have known symbols themselves. -/
def ClosedUnder (rules : List Rule) (known : List String) : Prop :=
  ∀ rule ∈ rules, SymbolsOnly (· ∈ known) rule.rhs → rule.name ∈ known

/-- A pass that adds nothing has found nothing to add at any rule. -/
theorem closed_of_pass_eq : ∀ {rules : List Rule} {known : List String},
    pass rules known = known → ClosedUnder rules known
  | [], _, _ => fun _ mem => absurd mem List.not_mem_nil
  | rule :: rest, known, unchanged => by
    rcases note_cases known rule with ⟨-, -, noted⟩ | ⟨closed, noted⟩
    · have longer := (suffix_pass rest (note known rule)).length_le
      rw [← pass_cons, unchanged, noted, List.length_cons] at longer
      omega
    · rw [pass_cons, noted] at unchanged
      exact List.forall_mem_cons.mpr ⟨closed, closed_of_pass_eq unchanged⟩

/-! ### Passes to the end -/

/-- The rules whose symbols are not known. -/
def unknown (rules : List Rule) (known : List String) : List Rule :=
  rules.filter fun rule => rule.name ∉ known

theorem length_unknown_pass_lt (changed : pass rules known ≠ known) :
    (unknown rules (pass rules known)).length < (unknown rules known).length := by
  obtain ⟨rule, mem, new, added⟩ := exists_new_of_pass_ne changed
  have fewer : unknown rules (pass rules known) =
      (unknown rules known).filter fun rule => rule.name ∉ pass rules known := by
    rw [unknown, unknown, List.filter_filter]
    refine List.filter_congr fun other _ => ?_
    have keeps : other.name ∈ known → other.name ∈ pass rules known :=
      fun held => (suffix_pass rules known).subset held
    by_cases added : other.name ∈ pass rules known
    · simp [added]
    · simp [added, mt keeps added]
  rw [fewer]
  refine List.length_filter_lt_length_iff_exists.mpr ⟨rule, ?_, by simpa using added⟩
  exact List.mem_filter.mpr ⟨mem, by simpa using new⟩

/-- Passes until one leaves the number of known symbols as it was, `last` being the number
before the pass that was the last one so far. -/
def passes (rules : List Rule) (last : Nat) (known : List String) : List String :=
  if known.length = last then known else passes rules known.length (pass rules known)
termination_by 2 * (unknown rules known).length + if known.length = last then 0 else 1
decreasing_by
  rename_i more
  by_cases unchanged : pass rules known = known
  · simp [unchanged, more]
  · have fewer := length_unknown_pass_lt unchanged
    split <;> omega

/-- The nullable symbols as passes find them. The number that they start from is not that of
the symbols known at first, so there is a pass in any case. -/
def nullableInPasses (g : Grammar) : NameSet :=
  .ofList (passes g.ordered 1 [])

theorem passes_induction {P : String → Prop}
    (step : ∀ rule ∈ rules, SymbolsOnly P rule.rhs → P rule.name) {last : Nat}
    (held : ∀ name ∈ known, P name) : ∀ name ∈ passes rules last known, P name := by
  fun_induction passes rules last known with
  | case1 => exact held
  | case2 last known more ih => exact ih (pass_induction step held)

/-- What the passes end with is closed under the rules, if it was when they were to end
at once. -/
theorem closed_passes {last : Nat} (settled : known.length = last → ClosedUnder rules known) :
    ClosedUnder rules (passes rules last known) := by
  fun_induction passes rules last known with
  | case1 known => exact settled rfl
  | case2 last known more ih =>
    refine ih fun sameLength => ?_
    have unchanged : pass rules known = known :=
      ((suffix_pass rules known).eq_of_length sameLength.symm).symm
    rw [unchanged]
    exact closed_of_pass_eq unchanged

/-- The passes find the nullable symbols. -/
theorem nullableInPasses_eq (g : Grammar) : g.nullableInPasses = g.nullable := by
  refine NameSet.ext fun name => ?_
  rw [nullableInPasses, NameSet.mem_ofList]
  constructor
  · refine passes_induction (fun rule mem => ?_) (by simp) name
    exact mem_nullable_of_rule (mem_ordered.mp mem)
  · refine nullable_induction fun rule mem => ?_
    exact closed_passes (by simp) rule (mem_ordered.mpr mem)

end Grammar
end ReversibleGrammar
