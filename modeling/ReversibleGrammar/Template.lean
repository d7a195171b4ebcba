/-
# Templates

A template says how a rule builds its value from the values of its children.
It is the empty template, a slot that names a child or an attribute of one, a
record of named fields, or a list of head items followed by the items of tail
lists. A field is computed from the children, or it is a fixed value.

Key definitions: `Template`, `Field`, `Template.setField`, `Template.display`.
-/
import ReversibleGrammar.Value

namespace ReversibleGrammar

mutual

/-- How a rule builds its value from its children, and takes it apart again. -/
inductive Template where
  /-- Builds the null value. -/
  | empty
  /-- The child at the index, or an attribute of it. -/
  | slot (index : Nat) (attr : Option String)
  /-- A record with a tag. -/
  | record (tag : String) (fields : List Field)
  /-- The items that the heads build, then those of the lists that the tails build. -/
  | list (heads tails : List Template)

/-- A named field of a record template. -/
inductive Field where
  /-- Built from the children. -/
  | computed (name : String) (template : Template)
  /-- The same value always, which taking a record apart requires. -/
  | fixed (name : String) (value : Value)

end

/-- The name of a field. -/
def Field.name : Field → String
  | computed name _ => name
  | fixed name _ => name

namespace Template

/-- Adds a field at the end, or in place of the field of the same name. -/
def setField : List Field → Field → List Field
  | [], field => [field]
  | other :: rest, field =>
    if other.name = field.name then field :: rest else other :: setField rest field

/-- The record template with the given fields, in which the last field of a
name stands where the first one did. -/
def ofFields (tag : String) (fields : List Field) : Template :=
  record tag (fields.foldl setField [])

/-! ### Text -/

/-- The text of a slot. -/
def displaySlot (index : Nat) : Option String → String
  | none => "$" ++ index.repr
  | some attr => "$" ++ index.repr ++ "." ++ attr

mutual

/-- The text of a template, as grammars write it. -/
def display : Template → String
  | empty => "empty"
  | slot index attr => displaySlot index attr
  | record tag fields => tag ++ " " ++ Value.braced (displayFields fields)
  | list heads [] => "[" ++ ", ".intercalate (displayEach heads) ++ "]"
  | list heads tails =>
    "[" ++ ", ".intercalate (displayEach heads) ++ "; " ++
      ", ".intercalate (displayEach tails) ++ "]"

/-- The texts of the fields, each with its name. -/
def displayFields : List Field → List String
  | [] => []
  | field :: rest => displayField field :: displayFields rest

/-- The text of a field with its name. -/
def displayField : Field → String
  | .computed name template => name ++ ": " ++ display template
  | .fixed name value => name ++ ": " ++ value.display

/-- The texts of the templates of a list. -/
def displayEach : List Template → List String
  | [] => []
  | template :: rest => display template :: displayEach rest

end

end Template

end ReversibleGrammar
