/-
# From values to words

A symbol realizes a value by every rule whose template takes the value apart:
each terminal produces the one word that its position is given, each symbol
realizes what its position is given, and the words of the elements are put
together. A position that no slot names is given nothing, which a symbol
realizes as null. A rule that does not fit is passed over.

As for parsing, the search is stated as a composition of searches and as the
course that is run.

Key definitions: `Grammar.realizeElements`, `Grammar.realize`,
`Grammar.realizeThen`, `Parser.realize`.
Key theorems: `Grammar.realizeThen_eq`, `Parser.realizeSearch_eq`.
-/
import ReversibleGrammar.Course
import ReversibleGrammar.Feed
import ReversibleGrammar.Parser.Basic
import ReversibleGrammar.Template.Decomposition

namespace ReversibleGrammar

namespace Grammar

/-- The words of elements, one choice for each element, the last one varying
fastest; `sub` searches the realizations of a symbol. -/
def realizeElements (sub : String → Fragment → Search SearchFault (List Word)) :
    List Element → List (Option Fragment) → Search SearchFault (List Word)
  | [], _ => .single []
  | .terminal terminal :: rest, places =>
    match terminal.realize places.head?.join with
    | .ok word => (realizeElements sub rest places.tail).map (word :: ·)
    | .error _ => .done
  | .symbol name :: rest, places =>
    (sub name (places.head?.join.getD (.value .null))).bind fun front =>
      (realizeElements sub rest places.tail).map (front ++ ·)

/-- The sentences that a symbol realizes a fragment by. The first number is how
many symbols may still be nested, this one counted; the limit is what it started
from. -/
def realize (g : Grammar) (limit : Nat) :
    Nat → String → Fragment → Search SearchFault (List Word)
  | 0, symbol, _ => .fail (.depthExceeded symbol limit)
  | budget + 1, symbol, fragment =>
    match g.rulesOf symbol with
    | [] => .fail (.undefinedSymbol symbol)
    | rules => rules |> Search.each fun rule => .trial fun _ =>
        match rule.template.decompose rule.rhs.length fragment with
        | .ok flat => realizeElements (g.realize limit budget) rule.rhs flat.places
        | .error (.mismatch _) => .done
        | .error (.fault cause) => .fail (.inRule rule cause)

/-! ### As courses -/

/-- The course of `realizeElements`. -/
def realizeElementsThen {γ : Type} (sub : String → Fragment → Course SearchFault γ (List Word)) :
    List Element → List (Option Fragment) → Course SearchFault γ (List Word)
  | [], _, use, last => use [] last
  | .terminal terminal :: rest, places, use, last =>
    match terminal.realize places.head?.join with
    | .ok word => realizeElementsThen sub rest places.tail (fun words => use (word :: words)) last
    | .error _ => last ()
  | .symbol name :: rest, places, use, last =>
    sub name (places.head?.join.getD (.value .null))
      (fun front last' =>
        realizeElementsThen sub rest places.tail (fun words => use (front ++ words)) last')
      last

/-- The course of `realize`. -/
def realizeThen {γ : Type} (g : Grammar) (limit : Nat) :
    Nat → String → Fragment → Course SearchFault γ (List Word)
  | 0, symbol, _, _, _ => .fail (.depthExceeded symbol limit)
  | budget + 1, symbol, fragment, use, last =>
    match g.rulesOf symbol with
    | [] => .fail (.undefinedSymbol symbol)
    | rules => Course.each
        (fun rule use last => .trial fun _ =>
          match rule.template.decompose rule.rhs.length fragment with
          | .ok flat => realizeElementsThen (g.realizeThen limit budget) rule.rhs flat.places use last
          | .error (.mismatch _) => last ()
          | .error (.fault cause) => .fail (.inRule rule cause))
        rules use last

theorem realizeElementsThen_eq {γ : Type}
    (sub : String → Fragment → Search SearchFault (List Word)) :
    ∀ (elements : List Element) (places : List (Option Fragment)),
      realizeElementsThen (fun name fragment => (sub name fragment).through) elements places =
        (realizeElements sub elements places).through (γ := γ)
  | [], _ => rfl
  | .terminal terminal :: rest, places => by
    funext use last
    rw [realizeElementsThen, realizeElements, realizeElementsThen_eq sub rest places.tail]
    split
    · rw [Search.through_map]
    · rfl
  | .symbol name :: rest, places => by
    funext use last
    simp only [realizeElementsThen, realizeElements, Search.through_bind, Search.through_map,
      realizeElementsThen_eq sub rest]

/-- The course of a realization is that of the search for it. -/
theorem realizeThen_eq {γ : Type} (g : Grammar) (limit : Nat) :
    ∀ (budget : Nat) (symbol : String) (fragment : Fragment),
      g.realizeThen limit budget symbol fragment =
        (g.realize limit budget symbol fragment).through (γ := γ)
  | 0, _, _ => rfl
  | budget + 1, symbol, fragment => by
    have sub : g.realizeThen limit budget =
        fun symbol fragment => (g.realize limit budget symbol fragment).through (γ := γ) := by
      funext symbol fragment
      exact realizeThen_eq g limit budget symbol fragment
    funext use last
    unfold realizeThen realize
    split
    · rfl
    · simp only [Search.through_each, Search.through, sub, realizeElementsThen_eq]
      congr
      funext rule use last
      congr
      funext _
      split <;> rfl

end Grammar

namespace Parser

/-- The search for the sentences that a symbol realizes a value by. -/
def realizeSearch (p : Parser) (symbol : String) (value : Value) :
    Search SearchFault (List Word) :=
  p.grammar.realizeThen p.maxDepth (p.maxDepth + 1) symbol (.value value) .found fun _ => .done

/-- The sentences of a value are what its symbol realizes it by. -/
theorem realizeSearch_eq (p : Parser) (symbol : String) (value : Value) :
    p.realizeSearch symbol value =
      p.grammar.realize p.maxDepth (p.maxDepth + 1) symbol (.value value) := by
  rw [realizeSearch, Grammar.realizeThen_eq, Search.through_found]

/-- Every sentence that a symbol could have parsed into the value. -/
def realize (p : Parser) (symbol : String) (value : Value) :
    Feed (Except SearchFault (List Word)) :=
  (p.realizeSearch symbol value).feed

end Parser

end ReversibleGrammar
