/-
# Taking a value apart

A template takes a fragment apart into what each position of its rule must
realize. It either yields an assignment as wide as the rule, or meets an
obstacle: the fragment has another shape, and the next rule of the symbol may
fit, or the template itself is at fault.

A record must have the tag and as many fields as the template, and every field
of the template. A partial record constrains only the fields that it carries.
A list gives each head one item and every tail all the items after them, of
which there must be at least one.

Key definitions: `Template.Mismatch`, `Template.Obstacle`, `Template.decompose`.
-/
import ReversibleGrammar.Assignment
import ReversibleGrammar.Template

namespace ReversibleGrammar
namespace Template

/-- Why the shape of a template does not fit a fragment. -/
inductive Mismatch where
  /-- An attribute cannot be projected out of a partial record. -/
  | projectsPartial (attr : String) (part : PartialRecord)
  /-- A fixed field has another value. -/
  | fixedDiffers (tag name : String) (value expected : Value)
  /-- The record has more or fewer fields. -/
  | otherFields (whole : Value)
  /-- The record lacks a field of the template. -/
  | recordLacks (whole : Value) (name : String)
  /-- The template lacks a field of the partial record. -/
  | templateLacks (tag name : String)
  /-- The fragment is no record with the tag. -/
  | notTagged (fragment : Fragment) (tag : String)
  | notList (fragment : Fragment)
  /-- There are fewer items than heads. -/
  | fewerThanHeads
  /-- There are more items than heads, and no tail to take them. -/
  | moreThanHeads
  /-- Nothing is left for the tails. -/
  | nothingForTails
  | notNull (fragment : Fragment)
deriving DecidableEq

/-- The wording of a mismatch. -/
def Mismatch.message : Mismatch → String
  | projectsPartial attr part =>
    "cannot project ." ++ attr ++ " out of partial " ++ part.display
  | fixedDiffers tag name value expected =>
    tag ++ "." ++ name ++ " is " ++ value.display ++ " in the value but " ++ expected.display ++
      " in the template"
  | otherFields whole => whole.display ++ " has a different set of fields"
  | recordLacks whole name => whole.display ++ " has no field " ++ name
  | templateLacks tag name => tag ++ " has no field " ++ name
  | notTagged fragment tag => fragment.display ++ " is not a " ++ tag
  | notList fragment => fragment.display ++ " is not a list"
  | fewerThanHeads => "head is longer than the list"
  | moreThanHeads => "list is longer than the head and there is no tail"
  | nothingForTails => "list ends where the tail should begin"
  | notNull fragment => fragment.display ++ " is not null"

/-- Why a template does not take a fragment apart. -/
inductive Obstacle where
  /-- The fragment has another shape; another rule may fit. -/
  | mismatch (reason : Mismatch)
  /-- The template is at fault. -/
  | fault (cause : TemplateFault)
deriving DecidableEq

/-- An assignment with one position set; a position outside it is a fault. -/
def placed (width index : Nat) (fragment : Fragment) : Except Obstacle Assignment :=
  (Assignment.single width index fragment).mapError .fault

/-- Two assignments joined; a disagreement is a fault. -/
def joined (a b : Assignment) : Except Obstacle Assignment :=
  (a.union b).mapError .fault

/-- The first thing wrong with the length of a list. -/
def lengthMismatch? (heads tails items : Nat) : Option Mismatch :=
  if items < heads then some .fewerThanHeads
  else if tails = 0 ∧ heads < items then some .moreThanHeads
  else if tails ≠ 0 ∧ items = heads then some .nothingForTails
  else none

mutual

/-- What each of the `width` positions of a rule must realize for the rule to
build the fragment. -/
def decompose (width : Nat) : Template → Fragment → Except Obstacle Assignment
  | empty, fragment =>
    if fragment = .value .null then .ok (.blank width)
    else .error (.mismatch (.notNull fragment))
  | slot index none, fragment => placed width index fragment
  | slot index (some attr), .value value =>
    placed width index (.fields (FieldMap.single attr value))
  | slot _ (some attr), .fields part =>
    .error (.mismatch (.projectsPartial attr part))
  | record tag fields, .fields part =>
    part.toList.foldlM (fun flat field => do
      let found ← decomposeNamed width tag fields field.1 field.2
      joined flat found) (.blank width)
  | record tag fields, .value whole =>
    match whole with
    | .record heldTag held =>
      if heldTag ≠ tag then .error (.mismatch (.notTagged (.value whole) tag))
      else if held.size ≠ fields.length then .error (.mismatch (.otherFields whole))
      else decomposeFields width tag held fields (.blank width)
    | _ => .error (.mismatch (.notTagged (.value whole) tag))
  | list heads tails, fragment =>
    match fragment with
    | .value (.list items) =>
      match lengthMismatch? heads.length tails.length items.length with
      | some reason => .error (.mismatch reason)
      | none => do
        let flat ← decomposeHeads width heads items (.blank width)
        decomposeTails width tails (items.drop heads.length) flat
    | _ => .error (.mismatch (.notList fragment))

/-- Takes the fields of a record with the tag apart, in the order of the
template, and joins what they yield. -/
def decomposeFields (width : Nat) (tag : String) (held : FieldMap Value) :
    List Field → Assignment → Except Obstacle Assignment
  | [], flat => .ok flat
  | field :: rest, flat =>
    match held.get? field.name with
    | none => .error (.mismatch (.recordLacks (.record tag held) field.name))
    | some value => do
      let found ← decomposeField width tag field value
      let flat ← joined flat found
      decomposeFields width tag held rest flat

/-- Takes a value apart by the field that has the name. -/
def decomposeNamed (width : Nat) (tag : String) :
    List Field → String → Value → Except Obstacle Assignment
  | [], name, _ => .error (.mismatch (.templateLacks tag name))
  | field :: rest, name, value =>
    if field.name = name then decomposeField width tag field value
    else decomposeNamed width tag rest name value

/-- Takes the value of a field apart; a fixed field requires its own value. -/
def decomposeField (width : Nat) (tag : String) : Field → Value → Except Obstacle Assignment
  | .computed _ template, value => decompose width template (.value value)
  | .fixed name expected, value =>
    if expected = value then .ok (.blank width)
    else .error (.mismatch (.fixedDiffers tag name value expected))

/-- Gives each head one item and joins what they yield. -/
def decomposeHeads (width : Nat) :
    List Template → List Value → Assignment → Except Obstacle Assignment
  | head :: heads, item :: items, flat => do
    let found ← decompose width head (.value item)
    let flat ← joined flat found
    decomposeHeads width heads items flat
  | _, _, flat => .ok flat

/-- Gives every tail all the remaining items and joins what they yield. -/
def decomposeTails (width : Nat) :
    List Template → List Value → Assignment → Except Obstacle Assignment
  | [], _, flat => .ok flat
  | tail :: tails, items, flat => do
    let found ← decompose width tail (.value (.list items))
    let flat ← joined flat found
    decomposeTails width tails items flat

end

end Template
end ReversibleGrammar
