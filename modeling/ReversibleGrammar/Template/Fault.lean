/-
# Template faults

A template that cannot be applied to any value or to any children of its rule
is a defect of the grammar. The causes are collected here with their wording.

Key definitions: `TemplateFault`, `TemplateFault.message`.
-/
import ReversibleGrammar.Fragment

namespace ReversibleGrammar

/-- A defect that shows when a template is applied. -/
inductive TemplateFault where
  /-- Two parts of a template give one position different contents. -/
  | mergeConflict (position : Nat) (existing incoming : Fragment)
  /-- Two partial records both set the key. -/
  | keyCollision (key : String)
  /-- A slot names a child that the rule does not have. -/
  | noChild (index count : Nat)
  /-- A slot projects an attribute that the child does not carry. -/
  | noAttribute (attr : String) (value : Value)
  /-- The tail of a list built something that is not a list. -/
  | tailNotList (value : Value)
deriving DecidableEq

/-- The wording of a template fault. -/
def TemplateFault.message : TemplateFault → String
  | mergeConflict position existing incoming =>
    "merge conflict at position " ++ position.repr ++ ": " ++ existing.display ++ " vs " ++
      incoming.display
  | keyCollision key => "key `" ++ key ++ "` is already set in sparse object"
  | noChild index count =>
    "no slot " ++ index.repr ++ " among " ++ count.repr ++ " children"
  | noAttribute attr value => "no attribute `" ++ attr ++ "` on " ++ value.display
  | tailNotList value => "list tail is not a list: " ++ value.display

end ReversibleGrammar
