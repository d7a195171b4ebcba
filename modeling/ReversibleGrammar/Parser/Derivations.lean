/-
# From words to values

A symbol derives a value from the words at the front of a sentence by one of its
rules: each element takes some of the words, a terminal exactly one, a symbol as
many as one of its own derivations takes, and the template of the rule builds
the value. The search goes through the rules in order and, within a rule,
through the derivations of the elements from left to right.

The search is stated twice: `Grammar.derive` composes it out of searches, and
`Grammar.deriveThen` is the same search as a course, so that the time for a trial
does not grow with the number of symbols nested around it. Parsing runs the
second and equals the first.

Key definitions: `Grammar.matchElements`, `Grammar.derive`,
`Grammar.deriveThen`, `Parser.parse`.
Key theorems: `Grammar.deriveThen_eq`, `Parser.parseSearch_eq`.
-/
import ReversibleGrammar.Course
import ReversibleGrammar.Feed
import ReversibleGrammar.Parser.Basic
import ReversibleGrammar.Template.Building

namespace ReversibleGrammar

namespace Grammar

/-- The values that elements take from the front of a sentence, each choice with
the words that it leaves; `sub` searches the derivations of a symbol. -/
def matchElements (sub : String → List Word → Search SearchFault (Value × List Word)) :
    List Element → List Word → Search SearchFault (List Value × List Word)
  | [], words => .single ([], words)
  | .terminal _ :: _, [] => .done
  | .terminal terminal :: rest, word :: words =>
    if terminal.accepts word then
      (matchElements sub rest words).map fun (children, left) =>
        (terminal.read word :: children, left)
    else .done
  | .symbol name :: rest, words =>
    (sub name words).bind fun (value, left) =>
      (matchElements sub rest left).map fun (children, left') => (value :: children, left')

/-- The value that a rule builds from its children. -/
def buildBy (rule : Rule) (children : List Value) (left : List Word) :
    Search SearchFault (Value × List Word) :=
  match rule.template.build children with
  | .ok value => .single (value, left)
  | .error cause => .fail (.inRule rule cause)

/-- The values that a symbol derives from the front of a sentence, each with the
words that are left. The first number is how many symbols may still be nested,
this one counted; the limit is what it started from. -/
def derive (g : Grammar) (limit : Nat) :
    Nat → String → List Word → Search SearchFault (Value × List Word)
  | 0, symbol, _ => .fail (.depthExceeded symbol limit)
  | budget + 1, symbol, words =>
    match g.rulesOf symbol with
    | [] => .fail (.undefinedSymbol symbol)
    | rules => rules |> Search.each fun rule => .trial fun _ =>
        (matchElements (g.derive limit budget) rule.rhs words).bind fun (children, left) =>
          buildBy rule children left

/-! ### As courses -/

/-- The course of `matchElements`. -/
def matchElementsThen {γ : Type}
    (sub : String → List Word → Course SearchFault γ (Value × List Word)) :
    List Element → List Word → Course SearchFault γ (List Value × List Word)
  | [], words, use, last => use ([], words) last
  | .terminal _ :: _, [], _, last => last ()
  | .terminal terminal :: rest, word :: words, use, last =>
    if terminal.accepts word then
      matchElementsThen sub rest words
        (fun (children, left) => use (terminal.read word :: children, left)) last
    else last ()
  | .symbol name :: rest, words, use, last =>
    sub name words
      (fun (value, left) last' => matchElementsThen sub rest left
        (fun (children, left') => use (value :: children, left')) last')
      last

/-- The course of `buildBy`. -/
def buildByThen {γ : Type} (rule : Rule) (children : List Value) (left : List Word) :
    Course SearchFault γ (Value × List Word) := fun use last =>
  match rule.template.build children with
  | .ok value => use (value, left) last
  | .error cause => .fail (.inRule rule cause)

/-- The course of `derive`. -/
def deriveThen {γ : Type} (g : Grammar) (limit : Nat) :
    Nat → String → List Word → Course SearchFault γ (Value × List Word)
  | 0, symbol, _, _, _ => .fail (.depthExceeded symbol limit)
  | budget + 1, symbol, words, use, last =>
    match g.rulesOf symbol with
    | [] => .fail (.undefinedSymbol symbol)
    | rules => Course.each
        (fun rule use last => .trial fun _ =>
          matchElementsThen (g.deriveThen limit budget) rule.rhs words
            (fun (children, left) last' => buildByThen rule children left use last') last)
        rules use last

theorem matchElementsThen_eq {γ : Type}
    (sub : String → List Word → Search SearchFault (Value × List Word)) :
    ∀ (elements : List Element) (words : List Word),
      matchElementsThen (fun name words => (sub name words).through) elements words =
        (matchElements sub elements words).through (γ := γ)
  | [], _ => rfl
  | .terminal _ :: _, [] => rfl
  | .terminal terminal :: rest, word :: words => by
    funext use last
    rw [matchElementsThen, matchElements, matchElementsThen_eq sub rest words]
    split
    · rw [Search.through_map]
    · rfl
  | .symbol name :: rest, words => by
    funext use last
    simp only [matchElementsThen, matchElements, Search.through_bind, Search.through_map,
      matchElementsThen_eq sub rest]

theorem buildByThen_eq {γ : Type} (rule : Rule) (children : List Value) (left : List Word) :
    buildByThen rule children left = (buildBy rule children left).through (γ := γ) := by
  funext use last
  unfold buildByThen buildBy
  split <;> rfl

/-- The course of a derivation is that of the search for it. -/
theorem deriveThen_eq {γ : Type} (g : Grammar) (limit : Nat) :
    ∀ (budget : Nat) (symbol : String) (words : List Word),
      g.deriveThen limit budget symbol words =
        (g.derive limit budget symbol words).through (γ := γ)
  | 0, _, _ => rfl
  | budget + 1, symbol, words => by
    have sub : g.deriveThen limit budget =
        fun symbol words => (g.derive limit budget symbol words).through (γ := γ) := by
      funext symbol words
      exact deriveThen_eq g limit budget symbol words
    funext use last
    unfold deriveThen derive
    split
    · rfl
    · simp only [Search.through_each, Search.through, Search.through_bind, sub,
        matchElementsThen_eq, buildByThen_eq]

end Grammar

namespace Parser

/-- The search for the values that a symbol derives from a whole sentence. -/
def parseSearch (p : Parser) (symbol : String) (words : List Word) : Search SearchFault Value :=
  p.grammar.deriveThen p.maxDepth (p.maxDepth + 1) symbol words
    (fun (value, left) last => if left.isEmpty then .found value last else last ())
    fun _ => .done

/-- Of what a symbol derives from the front of a sentence, a parse is what leaves no words. -/
theorem parseSearch_eq (p : Parser) (symbol : String) (words : List Word) :
    p.parseSearch symbol words =
      (p.grammar.derive p.maxDepth (p.maxDepth + 1) symbol words).bind fun (value, left) =>
        if left.isEmpty then .single value else .done := by
  rw [parseSearch, Grammar.deriveThen_eq, ← Search.through_eq_bind]
  congr
  funext (value, left) last
  dsimp only
  split <;> rfl

/-- Every value that a symbol derives from a whole sentence. -/
def parse (p : Parser) (symbol : String) (words : List Word) : Feed (Except SearchFault Value) :=
  (p.parseSearch symbol words).feed

end Parser

end ReversibleGrammar
