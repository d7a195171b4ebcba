/-
# Positions stay in range

A template yields an assignment as wide as the rule that it belongs to: every form of template
begins with a blank one of that width, and a union is no wider than the wider of its parts. So a
search for realizations, which reads the place of each element by its position, always finds one.
And a list is cut after its heads only where it is long enough, for its length is looked at first.

To say so, the reading and the cutting are stated with an outcome for what is out of range. It
does not matter what that outcome is, because it never comes to it.

Key definitions: `Template.decomposeListOr`, `Grammar.realizeFrom`, `Grammar.realizeByPosition`.
Key theorems: `Template.decompose_list_eq`, `Grammar.realizeFrom_eq`,
`Grammar.realizeByPosition_eq`, `Parser.positions_stay_in_range`.
-/
import ReversibleGrammar.Proofs.Parser.Realizing

namespace ReversibleGrammar

namespace Template

/-- The items of a list from a position on, which must not be beyond its end. -/
def itemsFrom? (items : List Value) (start : Nat) : Option (List Value) :=
  if start ≤ items.length then some (items.drop start) else none

/-- Takes a list apart, which comes to `beyond` if it is cut after its end. -/
def decomposeListOr (beyond : Except Obstacle Assignment) (width : Nat) (heads tails : List Template)
    (items : List Value) : Except Obstacle Assignment :=
  match lengthMismatch? heads.length tails.length items.length with
  | some reason => .error (.mismatch reason)
  | none => do
    let flat ← decomposeHeads width heads items (.blank width)
    match itemsFrom? items heads.length with
    | none => beyond
    | some rest => decomposeTails width tails rest flat

/-- No list is cut after its end. -/
theorem decompose_list_eq (beyond : Except Obstacle Assignment) (width : Nat)
    (heads tails : List Template) (items : List Value) :
    (list heads tails).decompose width (.value (.list items)) =
      decomposeListOr beyond width heads tails items := by
  rw [decompose, decomposeListOr]
  cases fits : lengthMismatch? heads.length tails.length items.length with
  | some reason => rfl
  | none =>
    have enough : heads.length ≤ items.length := (lengthMismatch?_eq_none.mp fits).1
    have rest : itemsFrom? items heads.length = some (items.drop heads.length) := if_pos enough
    simp only [rest]

end Template

namespace Grammar

variable {sub : String → Fragment → Search SearchFault (List Word)}

/-- The words of elements, each of which reads its place by its position, the first one at the
given one. A position that there is no place at comes to `beyond`. -/
def realizeFrom (beyond : Search SearchFault (List Word))
    (sub : String → Fragment → Search SearchFault (List Word)) (places : List (Option Fragment)) :
    Nat → List Element → Search SearchFault (List Word)
  | _, [] => .single []
  | position, .terminal terminal :: rest =>
    match places[position]? with
    | none => beyond
    | some given =>
      match terminal.realize given with
      | .ok word => (realizeFrom beyond sub places (position + 1) rest).map (word :: ·)
      | .error _ => .done
  | position, .symbol name :: rest =>
    match places[position]? with
    | none => beyond
    | some given =>
      (sub name (given.getD (.value .null))).bind fun front =>
        (realizeFrom beyond sub places (position + 1) rest).map (front ++ ·)

/-- What the trial of a rule searches by positions. -/
def realizeByFrom (beyond : Search SearchFault (List Word))
    (sub : String → Fragment → Search SearchFault (List Word)) (rule : Rule) (fragment : Fragment) :
    Search SearchFault (List Word) :=
  match rule.template.decompose rule.rhs.length fragment with
  | .ok flat => realizeFrom beyond sub flat.places 0 rule.rhs
  | .error (.mismatch _) => .done
  | .error (.fault cause) => .fail (.inRule rule cause)

/-- The sentences that a symbol realizes a fragment by, read by positions. -/
def realizeByPosition (beyond : Search SearchFault (List Word)) (g : Grammar) (limit : Nat) :
    Nat → String → Fragment → Search SearchFault (List Word)
  | 0, symbol, _ => .fail (.depthExceeded symbol limit)
  | budget + 1, symbol, fragment =>
    match g.rulesOf symbol with
    | [] => .fail (.undefinedSymbol symbol)
    | rules => rules |> Search.each fun rule =>
        .trial fun _ => realizeByFrom beyond (g.realizeByPosition beyond limit budget) rule fragment

/-- Elements that have a place each find it at their position. -/
theorem realizeFrom_eq (beyond : Search SearchFault (List Word)) {places : List (Option Fragment)} :
    ∀ (elements : List Element) (position : Nat), position + elements.length ≤ places.length →
      realizeFrom beyond sub places position elements =
        realizeElements sub elements (places.drop position)
  | [], _, _ => rfl
  | element :: rest, position, fits => by
    rw [List.length_cons] at fits
    have inside : position < places.length := by omega
    have found : places[position]? = some places[position] := List.getElem?_eq_getElem inside
    have later : position + 1 + rest.length ≤ places.length := by omega
    have ih := realizeFrom_eq beyond rest (position + 1) later
    rw [List.drop_eq_getElem_cons inside]
    cases element with
    | terminal terminal =>
      rw [realizeFrom, realizeElements, found, ih]
      rfl
    | symbol name =>
      rw [realizeFrom, realizeElements, found, ih]
      rfl

theorem realizeByFrom_eq (beyond : Search SearchFault (List Word)) (rule : Rule)
    (fragment : Fragment) : realizeByFrom beyond sub rule fragment = realizeBy sub rule fragment := by
  rw [realizeByFrom, realizeBy]
  cases apart : rule.template.decompose rule.rhs.length fragment with
  | error obstacle => cases obstacle <;> rfl
  | ok flat =>
    have width : flat.places.length = rule.rhs.length := Template.width_of_decompose apart
    show realizeFrom beyond sub flat.places 0 rule.rhs = realizeElements sub rule.rhs flat.places
    exact realizeFrom_eq beyond rule.rhs 0 (by omega)

/-- Nothing is read out of range, however deep the search goes. -/
theorem realizeByPosition_eq (beyond : Search SearchFault (List Word)) (g : Grammar) (limit : Nat) :
    ∀ budget : Nat, g.realizeByPosition beyond limit budget = g.realize limit budget
  | 0 => rfl
  | budget + 1 => by
    funext symbol fragment
    rw [realizeByPosition, realize_succ, realizeByPosition_eq beyond g limit budget]
    cases g.rulesOf symbol with
    | nil => rfl
    | cons rule rules => simp only [realizeByFrom_eq]

end Grammar

namespace Parser

/-- **Positions stay in range.** A template that takes a fragment apart for a rule of some width
yields an assignment of that width. Therefore, whatever is put for it, no list is cut after its
end when it is taken apart, and no search for realizations reads a position that has no place. -/
theorem positions_stay_in_range (p : Parser) :
    (∀ (t : Template) (fragment : Fragment) (width : Nat) (flat : Assignment),
      t.decompose width fragment = .ok flat → flat.width = width) ∧
    (∀ beyond width heads tails items,
      (Template.list heads tails).decompose width (.value (.list items)) =
        Template.decomposeListOr beyond width heads tails items) ∧
    ∀ beyond symbol value,
      p.grammar.realizeByPosition beyond p.maxDepth (p.maxDepth + 1) symbol (.value value) =
        p.realizeSearch symbol value := by
  refine ⟨fun t fragment width flat apart => Template.width_of_decompose apart,
    Template.decompose_list_eq, fun beyond symbol value => ?_⟩
  rw [Grammar.realizeByPosition_eq, realizeSearch_eq]

/-- A record of which one part is a list and another is fixed, over three positions; the middle one
is given nothing. -/
theorem listed_positions_stay_in_range :
    let t : Template := .record "Pair" [.computed "items" (.list [.slot 0 none] [.slot 2 none]),
      .fixed "kind" (.str "list")]
    let fragment : Fragment := .value (.record "Pair" (FieldMap.ofList
      [("items", .list [.str "x", .str "y", .str "z"]), ("kind", .str "list")]))
    let flat : Assignment := ⟨[some (.value (.str "x")), none,
      some (.value (.list [.str "y", .str "z"]))]⟩
    t.decompose 3 fragment = .ok flat ∧ flat.width = 3 ∧
      choicesParser.grammar.realizeByPosition (.fail (.undefinedSymbol "beyond"))
        choicesParser.maxDepth (choicesParser.maxDepth + 1) "s" (.value (.list [.null])) =
        choicesParser.realizeSearch "s" (.list [.null]) := by
  intro t fragment flat
  have apart : t.decompose 3 fragment = .ok flat := by rfl
  obtain ⟨widths, -, searches⟩ := positions_stay_in_range choicesParser
  exact ⟨apart, widths t fragment 3 flat apart, searches _ "s" (.list [.null])⟩

end Parser

end ReversibleGrammar
