/-
# Sets of names

A finite set of names, kept as the list of its members in strictly ascending
order, so that a set has one representation.

Key definitions: `NameSet`, `NameSet.insert`, `NameSet.ofList`, `NameSet.diff`.
Key theorems: `NameSet.mem_insert`, `NameSet.mem_ofList`, `NameSet.mem_diff`.
-/

namespace ReversibleGrammar

/-- A finite set of names. -/
structure NameSet where
  toList : List String
  ascending : toList.Pairwise (· < ·)
deriving DecidableEq

namespace NameSet

instance : Membership String NameSet := ⟨fun set name => name ∈ set.toList⟩

instance (name : String) (set : NameSet) : Decidable (name ∈ set) :=
  inferInstanceAs (Decidable (name ∈ set.toList))

/-- The set without members. -/
def empty : NameSet := ⟨[], .nil⟩

/-- Puts a name in its place in an ascending list. -/
def place (name : String) : List String → List String
  | [] => [name]
  | other :: rest =>
    if name < other then name :: other :: rest
    else if other < name then other :: place name rest
    else other :: rest

theorem mem_place {name x : String} : ∀ {names : List String},
    x ∈ place name names ↔ x = name ∨ x ∈ names
  | [] => by simp [place]
  | other :: rest => by
    unfold place
    split
    · simp
    · rename_i h₁
      split
      · simp only [List.mem_cons, @mem_place name x rest]
        constructor
        · rintro (h | h | h) <;> simp [h]
        · rintro (h | h | h) <;> simp [h]
      · rename_i h₂
        have e : name = other := String.le_antisymm (String.not_lt.mp h₂) (String.not_lt.mp h₁)
        simp [e]

theorem place_ascending {name : String} : ∀ {names : List String},
    names.Pairwise (· < ·) → (place name names).Pairwise (· < ·)
  | [], _ => by simp [place]
  | other :: rest, h => by
    have h' := List.pairwise_cons.mp h
    unfold place
    split
    · rename_i hlt
      refine List.pairwise_cons.mpr ⟨fun x hx => ?_, h⟩
      rcases List.mem_cons.mp hx with hx | hx
      · exact hx ▸ hlt
      · exact String.lt_trans hlt (h'.1 x hx)
    · split
      · rename_i hlt
        refine List.pairwise_cons.mpr ⟨fun x hx => ?_, place_ascending h'.2⟩
        rcases mem_place.mp hx with hx | hx
        · exact hx ▸ hlt
        · exact h'.1 x hx
      · exact h

/-- Adds a name. -/
def insert (set : NameSet) (name : String) : NameSet :=
  ⟨place name set.toList, place_ascending set.ascending⟩

/-- The set of the names of a list. -/
def ofList : List String → NameSet
  | [] => empty
  | name :: rest => (ofList rest).insert name

/-- The names of the first set that are not in the second. -/
def diff (a b : NameSet) : NameSet :=
  ⟨a.toList.filter fun name => !(b.toList.contains name), a.ascending.filter _⟩

/-- Whether the set has no members. -/
def isEmpty (set : NameSet) : Bool :=
  set.toList.isEmpty

theorem mem_insert {set : NameSet} {name x : String} :
    x ∈ set.insert name ↔ x = name ∨ x ∈ set :=
  mem_place

theorem mem_ofList {x : String} : ∀ {names : List String}, x ∈ ofList names ↔ x ∈ names
  | [] => Iff.rfl
  | name :: rest => by
    rw [ofList, mem_insert, @mem_ofList x rest, List.mem_cons]

theorem mem_diff {a b : NameSet} {x : String} : x ∈ a.diff b ↔ x ∈ a ∧ x ∉ b := by
  show x ∈ a.toList.filter _ ↔ x ∈ a.toList ∧ ¬ x ∈ b.toList
  simp

end NameSet

end ReversibleGrammar
