/-
# Building a value

A template builds the value of a rule from the values of the rule's children.
It fails only where the grammar is wrong: a slot names a child that is not
there, an attribute that the child does not carry, or a list tail builds
something that is not a list.

Key definitions: `Template.build`.
-/
import ReversibleGrammar.Template
import ReversibleGrammar.Template.Fault

namespace ReversibleGrammar
namespace Template

/-- The child at an index, or an attribute of it. -/
def pick (children : List Value) (index : Nat) (attr : Option String) :
    Except TemplateFault Value :=
  match children[index]?, attr with
  | none, _ => .error (.noChild index children.length)
  | some child, none => .ok child
  | some child, some attr =>
    match child.field? attr with
    | none => .error (.noAttribute attr child)
    | some value => .ok value

mutual

/-- The value that a template builds from the children of its rule. -/
def build (children : List Value) : Template → Except TemplateFault Value
  | empty => .ok .null
  | slot index attr => pick children index attr
  | record tag fields => do
    let built ← buildFields children fields FieldMap.empty
    return .record tag built
  | list heads tails => do
    let items ← buildHeads children heads
    let rest ← buildTails children tails
    return .list (items ++ rest)

/-- Adds the fields that a record template builds, the later of one name
replacing the earlier. -/
def buildFields (children : List Value) :
    List Field → FieldMap Value → Except TemplateFault (FieldMap Value)
  | [], built => .ok built
  | field :: rest, built => do
    let value ← buildField children field
    buildFields children rest (built.put field.name value)

/-- The value of a field. -/
def buildField (children : List Value) : Field → Except TemplateFault Value
  | .computed _ template => build children template
  | .fixed _ value => .ok value

/-- The values that the heads of a list build, one item each. -/
def buildHeads (children : List Value) : List Template → Except TemplateFault (List Value)
  | [] => .ok []
  | head :: rest => do
    let item ← build children head
    let items ← buildHeads children rest
    return item :: items

/-- The items of the lists that the tails of a list build. -/
def buildTails (children : List Value) : List Template → Except TemplateFault (List Value)
  | [] => .ok []
  | tail :: rest => do
    match ← build children tail with
    | .list items =>
      let others ← buildTails children rest
      return if others.isEmpty then items else items ++ others
    | other => throw (.tailNotList other)

end

end Template
end ReversibleGrammar
