/-
# Fragments

Taking a value apart hands each position of a rule a fragment: a value, or a
partial record, some named fields of a record that is not known whole.

Key definitions: `PartialRecord`, `Fragment`.
-/
import ReversibleGrammar.Value

namespace ReversibleGrammar

/-- Some fields of a record. -/
abbrev PartialRecord : Type := FieldMap Value

/-- The text of a partial record. -/
def PartialRecord.display (part : PartialRecord) : String :=
  Value.braced (Value.displayFields part)

/-- What one position of a rule is given when a value is taken apart. -/
inductive Fragment where
  | value (value : Value)
  | fields (part : PartialRecord)
deriving DecidableEq

namespace Fragment

/-- The text of a fragment. -/
def display : Fragment → String
  | value v => v.display
  | fields part => part.display

end Fragment

end ReversibleGrammar
