/-
# Field maps

A field map holds at most one value for each name. Its fields stand in
strictly ascending order of name, and the order is part of the type: a chain
above `lo` holds names above `lo` only, and what follows a name is a chain
above that name. So a map has one representation, and two maps are equal when
they give every name the same value.

Key definitions: `FieldChain`, `FieldMap`, `FieldChain.get?`,
`FieldChain.insert`, `FieldMap.put`, `FieldMap.merge`, `FieldMap.ofList`.
Key theorems: `FieldChain.ext`, `FieldChain.mem_toList`, `FieldMap.get?_put`,
`FieldMap.get?_merge`.
-/

namespace ReversibleGrammar

/-- The name lies strictly above the bound; every name lies above no bound. -/
def Above : Option String → String → Prop
  | none, _ => True
  | some lo, name => lo < name

/-- Named values in strictly ascending order of name, all names above `lo`. -/
inductive FieldChain (α : Type) : Option String → Type
  /-- No fields. -/
  | nil {lo : Option String} : FieldChain α lo
  /-- A least field, and the others above it. -/
  | cons {lo : Option String} (name : String) (above : Above lo name) (value : α)
      (rest : FieldChain α (some name)) : FieldChain α lo

/-- A finite map from names to values. -/
abbrev FieldMap (α : Type) : Type := FieldChain α none

namespace FieldChain

variable {α : Type} {lo : Option String}

/-- The fields in ascending order of name. -/
def toList {lo : Option String} : FieldChain α lo → List (String × α)
  | nil => []
  | cons name _ value rest => (name, value) :: rest.toList

/-- The number of fields. -/
def size {lo : Option String} : FieldChain α lo → Nat
  | nil => 0
  | cons _ _ _ rest => rest.size + 1

/-- Whether there are no fields. -/
def isEmpty {lo : Option String} : FieldChain α lo → Bool
  | nil => true
  | cons _ _ _ _ => false

/-- The value of a name. -/
def get? {lo : Option String} : FieldChain α lo → String → Option α
  | nil, _ => none
  | cons name _ value rest, key => if name = key then some value else rest.get? key

/-- Gives a name a value, in place of the one it had. -/
def insert {lo : Option String} (name : String) (value : α) :
    (fields : FieldChain α lo) → Above lo name → FieldChain α lo
  | nil, above => cons name above value nil
  | cons other aboveOther held rest, above =>
    if below : name < other then cons name above value (cons other below held rest)
    else if beyond : other < name then cons other aboveOther held (insert name value rest beyond)
    else cons other aboveOther value rest

/-! ### The view by name -/

theorem eq_of_not_lt {a b : String} (h₁ : ¬ a < b) (h₂ : ¬ b < a) : a = b :=
  String.le_antisymm (String.not_lt.mp h₂) (String.not_lt.mp h₁)

theorem get?_eq_none_of_not_above : ∀ {lo : Option String} (fields : FieldChain α lo)
    {key : String}, ¬ Above lo key → fields.get? key = none
  | _, nil, _, _ => rfl
  | lo, cons name above value rest, key, h => by
    have hlt : ¬ name < key := by
      intro hk
      cases lo with
      | none => exact h trivial
      | some lo => exact h (String.lt_trans above hk)
    have hne : name ≠ key := fun e => h (e ▸ above)
    simp only [get?, hne, if_false]
    exact get?_eq_none_of_not_above rest hlt

theorem get?_insert (name key : String) (value : α) : ∀ {lo : Option String}
    (fields : FieldChain α lo) (above : Above lo name),
    (insert name value fields above).get? key =
      if name = key then some value else fields.get? key
  | _, nil, _ => rfl
  | _, cons other aboveOther held rest, above => by
    unfold insert
    split
    · rfl
    · rename_i h₁
      split
      · rename_i h₂
        have ih := get?_insert name key value rest (show Above (some other) name from h₂)
        by_cases ho : other = key
        · subst ho
          have : name ≠ other := fun e => h₁ (absurd h₂ (e ▸ String.lt_irrefl _))
          simp [get?, this]
        · simpa [get?, ho] using ih
      · rename_i h₂
        have e := eq_of_not_lt h₁ h₂
        subst e
        by_cases ho : name = key <;> simp [get?, ho]

/-- Two chains that give every name the same value are equal. -/
theorem ext : ∀ {lo : Option String} (a b : FieldChain α lo),
    (∀ key, a.get? key = b.get? key) → a = b
  | _, nil, nil, _ => rfl
  | _, nil, cons name _ _ _, h => by simpa [get?] using h name
  | _, cons name _ _ _, nil, h => by simpa [get?] using h name
  | _, cons n hn v r, cons m hm w s, h => by
    have e : n = m := by
      refine eq_of_not_lt (fun hlt => ?_) (fun hlt => ?_)
      · have := h n
        have hne : m ≠ n := fun e => String.lt_irrefl n (e ▸ hlt)
        simp only [get?, if_true, hne, if_false] at this
        rw [get?_eq_none_of_not_above s (fun k : m < n => String.lt_irrefl n (String.lt_trans hlt k))]
          at this
        cases this
      · have := h m
        have hne : n ≠ m := fun e => String.lt_irrefl m (e ▸ hlt)
        simp only [get?, if_true, hne, if_false] at this
        rw [get?_eq_none_of_not_above r (fun k : n < m => String.lt_irrefl m (String.lt_trans hlt k))]
          at this
        cases this
    subst e
    have hv : v = w := by simpa [get?] using h n
    subst hv
    have hr : r = s := ext r s fun key => by
      by_cases hk : n = key
      · subst hk
        rw [get?_eq_none_of_not_above r (String.lt_irrefl n),
          get?_eq_none_of_not_above s (String.lt_irrefl n)]
      · simpa [get?, hk] using h key
    subst hr
    rfl

/-- The list of the fields holds a value under a name exactly when the name has it. -/
theorem mem_toList {key : String} {value : α} : ∀ {lo : Option String} (fields : FieldChain α lo),
    (key, value) ∈ fields.toList ↔ fields.get? key = some value
  | _, nil => by simp [toList, get?]
  | _, cons name above held rest => by
    have hrest := @mem_toList key value _ rest
    by_cases h : name = key
    · subst h
      have hnone : rest.get? name = none :=
        get?_eq_none_of_not_above rest (String.lt_irrefl name)
      simp only [toList, get?, List.mem_cons, Prod.mk.injEq, true_and, hrest, hnone, if_true,
        Option.some.injEq, reduceCtorEq, or_false]
      exact eq_comm
    · have h' : key ≠ name := fun e => h e.symm
      simp [toList, get?, h, h', hrest]

theorem length_toList : ∀ {lo : Option String} (fields : FieldChain α lo),
    fields.toList.length = fields.size
  | _, nil => rfl
  | _, cons _ _ _ rest => by simp [toList, size, length_toList rest]

end FieldChain

namespace FieldMap

variable {α : Type}

/-- The map without fields. -/
def empty : FieldMap α := .nil

/-- The map with one field. -/
def single (name : String) (value : α) : FieldMap α :=
  .cons name trivial value .nil

/-- Gives a name a value, in place of the one it had. -/
def put (fields : FieldMap α) (name : String) (value : α) : FieldMap α :=
  FieldChain.insert name value fields trivial

/-- The map of a list of fields, in which the last value of a name wins. -/
def ofList (fields : List (String × α)) : FieldMap α :=
  fields.foldl (fun map field => map.put field.1 field.2) empty

/-- The fields of both maps; a common name takes the second one's value. -/
def merge (a b : FieldMap α) : FieldMap α :=
  b.toList.foldl (fun map field => map.put field.1 field.2) a

theorem get?_put (fields : FieldMap α) (name key : String) (value : α) :
    (fields.put name value).get? key = if name = key then some value else fields.get? key :=
  FieldChain.get?_insert name key value fields trivial

theorem get?_foldl_put (key : String) : ∀ {lo : Option String} (fields : FieldChain α lo)
    (a : FieldMap α),
    (fields.toList.foldl (fun map field => map.put field.1 field.2) a).get? key =
      (fields.get? key).or (a.get? key)
  | _, .nil, a => by simp [FieldChain.toList, FieldChain.get?]
  | _, .cons name above value rest, a => by
    rw [FieldChain.toList, List.foldl_cons, get?_foldl_put key rest, get?_put]
    by_cases h : name = key
    · subst h
      have hnone : rest.get? name = none :=
        FieldChain.get?_eq_none_of_not_above rest (String.lt_irrefl name)
      simp [FieldChain.get?, hnone]
    · simp [FieldChain.get?, h]

/-- A name of the second map keeps its value there, any other its value in the first. -/
theorem get?_merge (a b : FieldMap α) (key : String) :
    (a.merge b).get? key = (b.get? key).or (a.get? key) :=
  get?_foldl_put key b a

end FieldMap

end ReversibleGrammar
