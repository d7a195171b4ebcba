/-
# Reading a grammar

A grammar is written as rules, each a symbol, `::=`, its elements, `=>`, a
template and `;`. A template is a slot, `empty`, a tag with fields in braces, or
a list in brackets with its tails behind a semicolon. Inside a template a field
may also be fixed: `null`, a string, or a list of such values.

Every reader consumes text, so reading ends by the length of the text.

Key definitions: `Notation.Expression`, `Notation.readExpression`,
`Notation.readRule`, `Notation.readRules`, `Notation.readGrammar`.
-/
import ReversibleGrammar.Grammar
import ReversibleGrammar.Notation.Lexeme

namespace ReversibleGrammar
namespace Notation

/-- What may stand as a field: a template or a fixed value. -/
inductive Expression where
  | computed (template : Template)
  | fixed (value : Value)

namespace Expression

/-- The template of an expression that is no fixed value. -/
def template? : Expression → Option Template
  | computed template => some template
  | fixed _ => none

/-- The value of an expression that is one. -/
def value? : Expression → Option Value
  | computed _ => none
  | fixed value => some value

/-- The expression as a field with a name. -/
def toField (name : String) : Expression → Field
  | computed template => .computed name template
  | fixed value => .fixed name value

/-- The values of expressions that are all fixed. -/
def values? : List Expression → Option (List Value)
  | [] => some []
  | e :: rest => match e.value?, values? rest with
    | some value, some values => some (value :: values)
    | _, _ => none

/-- The templates of expressions of which none is fixed. -/
def templates? : List Expression → Option (List Template)
  | [] => some []
  | e :: rest => match e.template?, templates? rest with
    | some template, some templates => some (template :: templates)
    | _, _ => none

/-- A list in brackets without a semicolon: a fixed list if it holds items and
all of them are fixed, a list template if none is. -/
def ofItems? (items : List Expression) : Option Expression :=
  if items.isEmpty then some (computed (.list [] []))
  else match values? items with
    | some values => some (fixed (.list values))
    | none => (templates? items).map fun heads => computed (.list heads [])

/-- A list in brackets with a semicolon, in which nothing is fixed. -/
def ofHeadsAndTails? (heads tails : List Expression) : Option Expression :=
  match templates? heads, templates? tails with
  | some heads, some tails => some (computed (.list heads tails))
  | _, _ => none

end Expression

/-- The mark that ends the items of a list. -/
inductive Closing where
  | semicolon
  | bracket
deriving DecidableEq

/-! ### Expressions -/

mutual

/-- Reads what may stand as a field. -/
def readExpression (s : List Char) : Reading Expression s.length :=
  match h : skipBlank s with
  | '$' :: _ => (readSlot s).map (·.map .computed)
  | '"' :: _ => (readString s).map (·.map fun content => .fixed (.str content))
  | '[' :: rest =>
    have shorter : rest.length < s.length := length_le_of_skipBlank h
    match readItems rest with
    | .error problem => .error problem
    | .ok ⟨(heads, .bracket), after, le⟩ =>
      match Expression.ofItems? heads with
      | some e => .ok ⟨e, after, by omega⟩
      | none => .error ⟨.mixedList, '[' :: rest⟩
    | .ok ⟨(heads, .semicolon), after, le⟩ =>
      match readItems after with
      | .error problem => .error problem
      | .ok ⟨(_, .semicolon), final, _⟩ => missing (.mark "]") (';' :: final)
      | .ok ⟨(tails, .bracket), final, le'⟩ =>
        match Expression.ofHeadsAndTails? heads tails with
        | some e => .ok ⟨e, final, by omega⟩
        | none => .error ⟨.mixedList, '[' :: rest⟩
  | _ =>
    match readName s with
    | .error problem => .error problem
    | .ok ⟨name, after, le⟩ =>
      if name = "empty" then .ok ⟨.computed .empty, after, le⟩
      else if name = "null" then .ok ⟨.fixed .null, after, le⟩
      else
        match readMark '\x7b' after with
        | .error problem => .error problem
        | .ok ⟨_, inside, le'⟩ =>
          match readFields name [] inside with
          | .error problem => .error problem
          | .ok t => .ok ((t.map .computed).weaken (by omega))
termination_by (s.length, 0)

/-- Reads the fields of a record template up to the closing brace. -/
def readFields (tag : String) (fields : List Field) (s : List Char) : Reading Template s.length :=
  match h : skipBlank s with
  | '\x7d' :: rest => .ok ⟨.record tag fields, rest, length_le_of_skipBlank h⟩
  | start =>
    match readName s with
    | .error problem => .error problem
    | .ok ⟨name, afterName, le⟩ =>
      match readMark ':' afterName with
      | .error problem => .error problem
      | .ok ⟨_, afterColon, le'⟩ =>
        if fields.any fun field => field.name == name then
          .error ⟨.repeatedField name tag, start⟩
        else
          match readExpression afterColon with
          | .error problem => .error problem
          | .ok ⟨e, after, le''⟩ =>
            match h' : skipBlank after with
            | ',' :: rest =>
              have : rest.length < after.length := length_le_of_skipBlank h'
              match readFields tag (fields ++ [e.toField name]) rest with
              | .error problem => .error problem
              | .ok t => .ok (t.weaken (by omega))
            | '\x7d' :: rest =>
              have : rest.length < after.length := length_le_of_skipBlank h'
              .ok ⟨.record tag (fields ++ [e.toField name]), rest, by omega⟩
            | other => missing .fieldEnd other
termination_by (s.length, 0)

/-- Reads items with commas between them, up to and with the mark that ends them. -/
def readItems (s : List Char) : Reading (List Expression × Closing) s.length :=
  match h : skipBlank s with
  | ';' :: rest => .ok ⟨([], .semicolon), rest, length_le_of_skipBlank h⟩
  | ']' :: rest => .ok ⟨([], .bracket), rest, length_le_of_skipBlank h⟩
  | _ =>
    match readExpression s with
    | .error problem => .error problem
    | .ok ⟨item, after, le⟩ =>
      match h' : skipBlank after with
      | ',' :: rest =>
        have : rest.length < after.length := length_le_of_skipBlank h'
        match readItems rest with
        | .error problem => .error problem
        | .ok ⟨(items, closing), final, le'⟩ => .ok ⟨(item :: items, closing), final, by omega⟩
      | ';' :: rest =>
        have : rest.length < after.length := length_le_of_skipBlank h'
        .ok ⟨([item], .semicolon), rest, by omega⟩
      | ']' :: rest =>
        have : rest.length < after.length := length_le_of_skipBlank h'
        .ok ⟨([item], .bracket), rest, by omega⟩
      | other => missing .itemEnd other
termination_by (s.length, 1)

end

/-! ### Rules -/

/-- Reads the elements of a rule up to the arrow. -/
def readElements (s : List Char) : Reading (List Element) s.length :=
  match h : skipBlank s with
  | '=' :: '>' :: rest =>
    .ok ⟨[], rest, by
      have := length_le_of_skipBlank h
      simp only [List.length_cons] at this
      omega⟩
  | _ =>
    match readElement s with
    | .error problem => .error problem
    | .ok ⟨element, after, le⟩ =>
      match readElements after with
      | .error problem => .error problem
      | .ok t => .ok ((t.map (element :: ·)).weaken (by omega))
termination_by s.length

/-- Reads a rule. -/
def readRule (s : List Char) : Reading Rule s.length := do
  let ⟨name, s₁, h₁⟩ ← readName s
  let ⟨_, s₂, h₂⟩ ← readDefines s₁
  let ⟨rhs, s₃, h₃⟩ ← readElements s₂
  let ⟨expression, s₄, h₄⟩ ← readExpression s₃
  match expression with
  | .fixed value => .error ⟨.fixedTemplate value, skipBlank s₃⟩
  | .computed template =>
    let ⟨_, s₅, h₅⟩ ← readMark ';' s₄
    .ok ⟨⟨name, rhs, template⟩, s₅, by omega⟩

/-- Reads rules to the end of the text. -/
def readRules (s : List Char) : Except Problem (List Rule) :=
  if (skipBlank s).isEmpty then .ok []
  else
    match readRule s with
    | .error problem => .error problem
    | .ok ⟨rule, rest, _⟩ =>
      match readRules rest with
      | .error problem => .error problem
      | .ok rules => .ok (rule :: rules)
termination_by s.length

/-- Reads a grammar, which has at least one rule. -/
def readGrammar (text : String) : Except Problem Grammar :=
  match readRules text.toList with
  | .error problem => .error problem
  | .ok [] => .error ⟨.noRules, []⟩
  | .ok (rule :: rules) => .ok ⟨rule :: rules⟩

end Notation
end ReversibleGrammar
