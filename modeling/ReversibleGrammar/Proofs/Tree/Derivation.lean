/-
# Derivation trees

A tree fits a symbol when its nodes are rules of the grammar and its words are
accepted by their terminals. It derives a value when besides the template of
every rule builds one from the values of the children, which are then
determined by the tree.

Key definitions: `Grammar.Fits`, `Grammar.Derives`.
Key theorems: `Grammar.Derives.fits`, `Grammar.Derives.value_unique`.
-/
import ReversibleGrammar.Grammar
import ReversibleGrammar.Proofs.Tree.Basic
import ReversibleGrammar.Template.Building

namespace ReversibleGrammar
namespace Grammar

mutual

/-- The tree is made of rules of the grammar and of words that their terminals accept. -/
inductive Fits (g : Grammar) : Tree → String → Prop
  | node {symbol : String} {position : Nat} {rule : Rule} {children : Forest}
      (ruleAt : (g.rulesOf symbol)[position]? = some rule)
      (fits : g.FitsEach children rule.rhs) : g.Fits (.node position children) symbol

/-- The forest fits a sequence of elements. -/
inductive FitsEach (g : Grammar) : Forest → List Element → Prop
  | nil : g.FitsEach .nil []
  | word {terminal : Terminal} {word : Word} {rest : Forest} {elements : List Element}
      (accepted : terminal.accepts word = true) (fits : g.FitsEach rest elements) :
      g.FitsEach (.word word rest) (.terminal terminal :: elements)
  | tree {name : String} {head : Tree} {rest : Forest} {elements : List Element}
      (first : g.Fits head name) (fits : g.FitsEach rest elements) :
      g.FitsEach (.tree head rest) (.symbol name :: elements)

end

mutual

/-- The tree is a derivation of the value for the symbol. -/
inductive Derives (g : Grammar) : Tree → String → Value → Prop
  | node {symbol : String} {position : Nat} {rule : Rule} {forest : Forest}
      {children : List Value} {value : Value}
      (ruleAt : (g.rulesOf symbol)[position]? = some rule)
      (derived : g.DerivesEach forest rule.rhs children)
      (built : rule.template.build children = .ok value) :
      g.Derives (.node position forest) symbol value

/-- The forest derives one value for each element of a sequence. -/
inductive DerivesEach (g : Grammar) : Forest → List Element → List Value → Prop
  | nil : g.DerivesEach .nil [] []
  | word {terminal : Terminal} {word : Word} {rest : Forest} {elements : List Element}
      {values : List Value} (accepted : terminal.accepts word = true)
      (derived : g.DerivesEach rest elements values) :
      g.DerivesEach (.word word rest) (.terminal terminal :: elements)
        (terminal.read word :: values)
  | tree {name : String} {head : Tree} {rest : Forest} {elements : List Element}
      {value : Value} {values : List Value} (first : g.Derives head name value)
      (derived : g.DerivesEach rest elements values) :
      g.DerivesEach (.tree head rest) (.symbol name :: elements) (value :: values)

end

variable {g : Grammar}

theorem mem_rules_of_ruleAt {symbol : String} {position : Nat} {rule : Rule}
    (ruleAt : (g.rulesOf symbol)[position]? = some rule) : rule ∈ g.rules :=
  (mem_rulesOf.mp (List.mem_of_getElem? ruleAt)).1

/-! ### What the forest of some elements looks like -/

theorem derivesEach_nil_iff {forest : Forest} {values : List Value} :
    g.DerivesEach forest [] values ↔ forest = .nil ∧ values = [] := by
  constructor
  · rintro ⟨⟩
    exact ⟨rfl, rfl⟩
  · rintro ⟨rfl, rfl⟩
    exact .nil

theorem derivesEach_terminal_iff {forest : Forest} {terminal : Terminal} {elements : List Element}
    {values : List Value} : g.DerivesEach forest (.terminal terminal :: elements) values ↔
      ∃ word rest others, forest = .word word rest ∧ values = terminal.read word :: others ∧
        terminal.accepts word = true ∧ g.DerivesEach rest elements others := by
  constructor
  · rintro (_ | ⟨accepted, derived⟩)
    exact ⟨_, _, _, rfl, rfl, accepted, derived⟩
  · rintro ⟨word, rest, others, rfl, rfl, accepted, derived⟩
    exact .word accepted derived

theorem derivesEach_symbol_iff {forest : Forest} {name : String} {elements : List Element}
    {values : List Value} : g.DerivesEach forest (.symbol name :: elements) values ↔
      ∃ head rest value others, forest = .tree head rest ∧ values = value :: others ∧
        g.Derives head name value ∧ g.DerivesEach rest elements others := by
  constructor
  · rintro (_ | _ | ⟨first, derived⟩)
    exact ⟨_, _, _, _, rfl, rfl, first, derived⟩
  · rintro ⟨head, rest, value, others, rfl, rfl, first, derived⟩
    exact .tree first derived

/-! ### Trees and values -/

mutual

/-- Only a tree that fits derives a value. -/
theorem Derives.fits : ∀ {tree : Tree} {symbol : String} {value : Value},
    g.Derives tree symbol value → g.Fits tree symbol
  | _, _, _, .node ruleAt derived _ => .node ruleAt derived.fits

theorem DerivesEach.fits : ∀ {forest : Forest} {elements : List Element} {values : List Value},
    g.DerivesEach forest elements values → g.FitsEach forest elements
  | _, _, _, .nil => .nil
  | _, _, _, .word accepted derived => .word accepted derived.fits
  | _, _, _, .tree first derived => .tree first.fits derived.fits

end

mutual

/-- A tree derives one value at most. -/
theorem Derives.value_unique : ∀ {tree : Tree} {symbol : String} {v w : Value},
    g.Derives tree symbol v → g.Derives tree symbol w → v = w
  | _, _, v, w, .node ruleAt derived built, .node ruleAt' derived' built' => by
    rw [ruleAt] at ruleAt'
    cases ruleAt'
    rw [derived.values_unique derived', built'] at built
    cases built
    rfl

theorem DerivesEach.values_unique : ∀ {forest : Forest} {elements : List Element}
    {vs ws : List Value}, g.DerivesEach forest elements vs → g.DerivesEach forest elements ws →
    vs = ws
  | _, _, _, _, .nil, .nil => rfl
  | _, _, _, _, .word _ derived, .word _ derived' => by rw [derived.values_unique derived']
  | _, _, _, _, .tree first derived, .tree first' derived' => by
    rw [first.value_unique first', derived.values_unique derived']

end

theorem DerivesEach.length_eq {forest : Forest} {elements : List Element} : ∀ {values : List Value},
    g.DerivesEach forest elements values → values.length = elements.length
  | _, .nil => rfl
  | _, .word _ derived => by simp [derived.length_eq]
  | _, .tree _ derived => by simp [derived.length_eq]

end Grammar
end ReversibleGrammar
