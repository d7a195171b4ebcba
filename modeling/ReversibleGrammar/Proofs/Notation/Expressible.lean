/-
# What the notation can express

Not every rule can be written down. Names and attributes have to be identifiers, a tag is
neither `empty` nor `null`, a record has no two fields of one name, an index fits 64 bits,
a literal is not empty and stays on its line, and a fixed value is made of null, strings
and lists that are not empty. All that is read off a text is expressible.

Key definitions: `Notation.isIdentifier`, `Value.Expressible`, `Template.Expressible`,
`Element.Expressible`, `Rule.Expressible`, `Grammar.Expressible`.
Key theorems: `Notation.SpellsExpression.expressible`, `Notation.SpellsRules.expressible`.
-/
import ReversibleGrammar.Proofs.Notation.Rules

namespace ReversibleGrammar

namespace Notation

/-- An ASCII letter or an underscore, then characters with the property. -/
def isIdentifier (p : Char → Bool) (s : String) : Bool :=
  match s.toList with
  | [] => false
  | c :: tail => isNameStart c && tail.all p

/-- A name of a symbol, a tag or a field. -/
abbrev isName : String → Bool := isIdentifier isNameChar

/-- A name of an attribute. -/
abbrev isAttribute : String → Bool := isIdentifier isAttributeChar

end Notation

open Notation

/-- A value that can be written as a fixed field. -/
inductive Value.Expressible : Value → Prop
  | null : Expressible .null
  | str (content : String) : Expressible (.str content)
  | list {items : List Value} (notEmpty : items ≠ []) (all : ∀ v ∈ items, Expressible v) :
    Expressible (.list items)

/-- A template that can be written. -/
inductive Template.Expressible : Template → Prop
  | empty : Expressible .empty
  | slot {index : Nat} {attr : Option String} (fits : index < UInt64.size)
    (named : ∀ name ∈ attr, isAttribute name = true) : Expressible (.slot index attr)
  | record {tag : String} {fields : List Field} (isTag : isName tag = true) (notEmpty : tag ≠ "empty")
    (notNull : tag ≠ "null") (distinct : (fields.map Field.name).Nodup)
    (names : ∀ field ∈ fields, isName field.name = true)
    (computed : ∀ name t, .computed name t ∈ fields → Expressible t)
    (fixed : ∀ name v, .fixed name v ∈ fields → v.Expressible) : Expressible (.record tag fields)
  | list {heads tails : List Template} (allHeads : ∀ t ∈ heads, Expressible t)
    (allTails : ∀ t ∈ tails, Expressible t) : Expressible (.list heads tails)

/-- An element that can be written. -/
inductive Element.Expressible : Element → Prop
  | literal {token : String} (notEmpty : token ≠ "") (onLine : '\n' ∉ token.toList) :
    Expressible (.terminal (.literal token))
  | textSpan : Expressible (.terminal .textSpan)
  | symbol {name : String} (isSymbol : isName name = true) : Expressible (.symbol name)

/-- A rule that can be written. -/
structure Rule.Expressible (rule : Rule) : Prop where
  name : isName rule.name = true
  rhs : ∀ element ∈ rule.rhs, element.Expressible
  template : rule.template.Expressible

/-- A grammar that can be written. -/
structure Grammar.Expressible (g : Grammar) : Prop where
  notEmpty : g.rules ≠ []
  rules : ∀ rule ∈ g.rules, rule.Expressible

namespace Notation

variable {s rest : List Char}

/-! ### Lexemes -/

theorem isIdentifier_ofList {p : Char → Bool} {c : Char} {tail : List Char}
    (start : isNameStart c = true) : isIdentifier p (String.ofList (c :: tail.takeWhile p)) = true := by
  rw [isIdentifier, String.toList_ofList]
  dsimp only
  rw [start, Bool.true_and, List.all_takeWhile]

theorem isName_of_takes {name : String} (h : (readName s).Takes name rest) : isName name = true := by
  obtain ⟨c, tail, -, start, rfl, -⟩ := readName_takes_iff.mp h
  exact isIdentifier_ofList start

theorem isAttribute_of_attributeAfter {attr : List Char} (h : (attributeAfter s).1 = some attr) :
    isAttribute (String.ofList attr) = true := by
  unfold attributeAfter at h
  split at h
  · split at h
    · rename_i start
      cases h
      exact isIdentifier_ofList start
    · cases h
  · cases h

theorem expressible_of_readSlot {template : Template} (h : (readSlot s).Takes template rest) :
    template.Expressible := by
  obtain ⟨tail, -, -, fits, rfl, -⟩ := readSlot_takes_iff.mp h
  refine .slot fits ?_
  intro name hname
  obtain ⟨attr, found, rfl⟩ := Option.map_eq_some_iff.mp hname
  exact isAttribute_of_attributeAfter found

theorem expressible_of_readElement {element : Element} (h : (readElement s).Takes element rest) :
    element.Expressible := by
  rcases readElement_takes_iff.mp h with ⟨token, literal, rfl⟩ | ⟨-, rfl⟩ | ⟨name, isSymbol, rfl⟩
  · obtain ⟨inside, -, notEmpty, isQuoted⟩ := readLiteral_takes_iff.mp literal
    exact .literal notEmpty isQuoted.newline_not_mem
  · exact .textSpan
  · exact .symbol (isName_of_takes isSymbol)

/-! ### Lists -/

namespace Expression

theorem values?_eq_mapM (items : List Expression) : values? items = items.mapM value? := by
  induction items with
  | nil => rfl
  | cons e items ih =>
    rw [values?, List.mapM_cons, ih]
    cases e.value? <;> cases items.mapM value? <;> rfl

theorem templates?_eq_mapM (items : List Expression) :
    templates? items = items.mapM template? := by
  induction items with
  | nil => rfl
  | cons e items ih =>
    rw [templates?, List.mapM_cons, ih]
    cases e.template? <;> cases items.mapM template? <;> rfl

/-- A function that undoes another is defined on all of a list just where the list is made
by the other. -/
theorem mapM_eq_some_iff {α β : Type} {f : α → Option β} {g : β → α}
    (undoes : ∀ a b, f a = some b ↔ a = g b) {l : List α} {bs : List β} :
    l.mapM f = some bs ↔ l = bs.map g := by
  induction l generalizing bs with
  | nil => cases bs <;> simp
  | cons a l ih =>
    rw [List.mapM_cons]
    constructor
    · intro h
      obtain ⟨b, first, h⟩ := Option.bind_eq_some_iff.mp h
      obtain ⟨others, rest, h⟩ := Option.bind_eq_some_iff.mp h
      cases h
      rw [List.map_cons, (undoes a b).mp first, ih.mp rest]
    · intro h
      cases bs with
      | nil => cases h
      | cons b bs =>
        obtain ⟨first, others⟩ := List.cons.inj h
        rw [(undoes a b).mpr first, ih.mpr others]
        rfl

theorem values?_eq_some_iff {items : List Expression} {values : List Value} :
    values? items = some values ↔ items = values.map fixed := by
  rw [values?_eq_mapM]
  apply mapM_eq_some_iff
  intro e value
  cases e <;> simp [value?]

theorem templates?_eq_some_iff {items : List Expression} {templates : List Template} :
    templates? items = some templates ↔ items = templates.map computed := by
  rw [templates?_eq_mapM]
  apply mapM_eq_some_iff
  intro e template
  cases e <;> simp [template?]

/-- An expression of what can be written. -/
def Expressible : Expression → Prop
  | computed template => template.Expressible
  | fixed value => value.Expressible

theorem Expressible.of_ofItems? {items : List Expression} {e : Expression}
    (all : ∀ item ∈ items, item.Expressible) (made : ofItems? items = some e) : e.Expressible := by
  unfold ofItems? at made
  split at made
  · cases made
    exact .list nofun nofun
  · rename_i notEmpty
    split at made
    · rename_i values found
      cases made
      rw [values?_eq_some_iff] at found
      subst found
      refine .list (by simpa using notEmpty) ?_
      intro v mem
      exact all _ (List.mem_map_of_mem mem)
    · obtain ⟨heads, found, rfl⟩ := Option.map_eq_some_iff.mp made
      rw [templates?_eq_some_iff] at found
      subst found
      refine .list ?_ nofun
      intro t mem
      exact all _ (List.mem_map_of_mem mem)

theorem Expressible.of_ofHeadsAndTails? {heads tails : List Expression} {e : Expression}
    (allHeads : ∀ item ∈ heads, item.Expressible) (allTails : ∀ item ∈ tails, item.Expressible)
    (made : ofHeadsAndTails? heads tails = some e) : e.Expressible := by
  unfold ofHeadsAndTails? at made
  split at made
  · rename_i heads' tails' found found'
    cases made
    rw [templates?_eq_some_iff] at found found'
    subst found found'
    refine .list ?_ ?_
    · intro t mem
      exact allHeads _ (List.mem_map_of_mem mem)
    · intro t mem
      exact allTails _ (List.mem_map_of_mem mem)
  · cases made

end Expression

/-! ### Records -/

/-- A field of a new name can be added to a record. -/
theorem expressible_record_append {tag name : String} {fields : List Field} {e : Expression}
    (h : (Template.record tag fields).Expressible) (isField : isName name = true)
    (fresh : (fields.any fun field => field.name == name) = false) (value : e.Expressible) :
    (Template.record tag (fields ++ [e.toField name])).Expressible := by
  have isName' : (e.toField name).name = name := by cases e <;> rfl
  cases h with
  | record isTag notEmpty notNull distinct names computed fixed =>
    refine .record isTag notEmpty notNull ?_ ?_ ?_ ?_
    · have notBefore : name ∉ fields.map Field.name := by
        simpa [List.any_eq_false] using fresh
      rw [List.map_append, List.map_singleton, isName']
      exact List.nodup_append.mpr ⟨distinct, by simp, by
        intro a mem b mem'
        rw [List.mem_singleton.mp mem']
        exact ne_of_mem_of_not_mem mem notBefore⟩
    · rw [List.forall_mem_append, List.forall_mem_singleton, isName']
      exact ⟨names, isField⟩
    · intro name' t mem
      rcases List.mem_append.mp mem with before | last
      · exact computed name' t before
      · cases e with
        | computed template =>
          cases List.mem_singleton.mp last
          exact value
        | fixed v => cases List.mem_singleton.mp last
    · intro name' v mem
      rcases List.mem_append.mp mem with before | last
      · exact fixed name' v before
      · cases e with
        | computed template => cases List.mem_singleton.mp last
        | fixed v' =>
          cases List.mem_singleton.mp last
          exact value

/-! ### Expressions -/

mutual

theorem SpellsExpression.expressible : ∀ {s rest : List Char} {e : Expression},
    SpellsExpression s e rest → e.Expressible
  | _, _, _, .slot slot => expressible_of_readSlot slot
  | _, _, _, .string _ => .str _
  | _, _, _, .empty _ => Template.Expressible.empty
  | _, _, _, .null _ => Value.Expressible.null
  | _, _, _, .record name notEmpty notNull _ fields =>
    fields.expressible (.record (isName_of_takes name) notEmpty notNull .nil nofun nofun nofun)
  | _, _, _, .list _ all made => .of_ofItems? all.expressible made
  | _, _, _, .tailed _ first second made =>
    .of_ofHeadsAndTails? first.expressible second.expressible made

theorem SpellsFields.expressible : ∀ {tag : String} {fields : List Field} {s rest : List Char}
    {template : Template}, SpellsFields tag fields s template rest →
    (Template.record tag fields).Expressible → template.Expressible
  | _, _, _, _, _, .closed _, h => h
  | _, _, _, _, _, .last isField _ fresh value _, h =>
    expressible_record_append h (isName_of_takes isField) fresh value.expressible
  | _, _, _, _, _, .more isField _ fresh value _ others, h =>
    others.expressible (expressible_record_append h (isName_of_takes isField) fresh value.expressible)

theorem SpellsItems.expressible : ∀ {s rest : List Char} {items : List Expression}
    {closing : Closing}, SpellsItems s items closing rest → ∀ item ∈ items, item.Expressible
  | _, _, _, _, .closed _ => nofun
  | _, _, _, _, .last item _ => List.forall_mem_singleton.mpr item.expressible
  | _, _, _, _, .more item _ others => List.forall_mem_cons.mpr ⟨item.expressible, others.expressible⟩

end

/-! ### Rules -/

theorem SpellsElements.expressible {elements : List Element} (h : SpellsElements s elements rest) :
    ∀ element ∈ elements, element.Expressible := by
  induction h with
  | arrow seen => exact nofun
  | more first others ih => exact List.forall_mem_cons.mpr ⟨expressible_of_readElement first, ih⟩

theorem SpellsRule.expressible {rule : Rule} (h : SpellsRule s rule rest) : rule.Expressible := by
  cases h with
  | rule isName defines elements builds semicolon =>
    exact ⟨isName_of_takes isName, elements.expressible, builds.expressible⟩

theorem SpellsRules.expressible {rules : List Rule} (h : SpellsRules s rules) :
    ∀ rule ∈ rules, rule.Expressible := by
  induction h with
  | done blank => exact nofun
  | more first others ih => exact List.forall_mem_cons.mpr ⟨first.expressible, ih⟩

end Notation
end ReversibleGrammar
