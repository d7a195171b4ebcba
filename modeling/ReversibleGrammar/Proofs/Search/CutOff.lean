/-
# Searches that are cut off

A search is cut off from another one by faults of some kind: it finds the same items and
makes the same trials in the same order, and either both come to the same end, or it
comes to a fault of that kind where the other one goes on as it may. To be cut off is
kept by everything that searches are composed with. So a cut anywhere inside a composed
search neither hides nor moves what was found before it.

Key definitions: `Search.CutOff`.
Key theorems: `Search.CutOff.bind`, `Search.CutOff.each`, `Search.CutOff.eq`,
`Search.CutOff.items_prefix`.
-/
import ReversibleGrammar.Proofs.Search.Outcome

namespace ReversibleGrammar
namespace Search

variable {ε α β : Type} {cuts : ε → Prop}

/-- The first search is the second one up to their common end, or up to a fault of the
first that cuts it off. -/
inductive CutOff (cuts : ε → Prop) : Search ε α → Search ε α → Prop
  /-- Here the first is cut off; the second may go on in any way. -/
  | cut {fault : ε} (isCut : cuts fault) (whole : Search ε α) : CutOff cuts (.fail fault) whole
  | done : CutOff cuts .done .done
  | fail (fault : ε) : CutOff cuts (.fail fault) (.fail fault)
  | found (item : α) {rest rest' : Unit → Search ε α} (later : CutOff cuts (rest ()) (rest' ())) :
    CutOff cuts (.found item rest) (.found item rest')
  | trial {rest rest' : Unit → Search ε α} (later : CutOff cuts (rest ()) (rest' ())) :
    CutOff cuts (.trial rest) (.trial rest')

namespace CutOff

protected theorem refl (x : Search ε α) : CutOff cuts x x := by
  induction x with
  | done => exact .done
  | fail fault => exact .fail fault
  | found item rest ih => exact .found item (ih ())
  | trial rest ih => exact .trial (ih ())

/-! ### Composed searches -/

theorem append {x y : Search ε α} {next next' : Unit → Search ε α} (h : CutOff cuts x y)
    (after : CutOff cuts (next ()) (next' ())) : CutOff cuts (x.append next) (y.append next') := by
  induction h with
  | cut isCut whole => exact .cut isCut _
  | done => exact after
  | fail fault => exact .fail fault
  | found item later ih => exact .found item ih
  | trial later ih => exact .trial ih

theorem map {x y : Search ε α} (h : CutOff cuts x y) (f : α → β) :
    CutOff cuts (x.map f) (y.map f) := by
  induction h with
  | cut isCut whole => exact .cut isCut _
  | done => exact .done
  | fail fault => exact .fail fault
  | found item later ih => exact .found (f item) ih
  | trial later ih => exact .trial ih

/-- The searches that the items lead to may be cut off as well as the one that finds them. -/
theorem bind {x y : Search ε α} {f f' : α → Search ε β} (h : CutOff cuts x y)
    (each : ∀ a, CutOff cuts (f a) (f' a)) : CutOff cuts (x.bind f) (y.bind f') := by
  induction h with
  | cut isCut whole => exact .cut isCut _
  | done => exact .done
  | fail fault => exact .fail fault
  | found item later ih => exact (each item).append ih
  | trial later ih => exact .trial ih

theorem each {f f' : α → Search ε β} (h : ∀ a, CutOff cuts (f a) (f' a)) :
    ∀ as : List α, CutOff cuts (Search.each f as) (Search.each f' as)
  | [] => .done
  | a :: rest => (h a).append (each h rest)

/-! ### What is cut off -/

/-- A search that does not end in a cut is the whole search. -/
theorem eq {x y : Search ε α} (h : CutOff cuts x y)
    (uncut : ∀ fault, x.fault? = some fault → ¬ cuts fault) : x = y := by
  induction h with
  | cut isCut whole => exact absurd isCut (uncut _ rfl)
  | done => rfl
  | fail fault => rfl
  | found item later ih =>
    congr 1
    funext _
    exact ih uncut
  | trial later ih =>
    congr 1
    funext _
    exact ih uncut

/-- What was found before the cut is what the whole search finds first. -/
theorem items_prefix {x y : Search ε α} (h : CutOff cuts x y) : x.items <+: y.items := by
  induction h with
  | cut isCut whole => exact List.nil_prefix
  | done => exact List.nil_prefix
  | fail fault => exact List.nil_prefix
  | found item later ih => exact List.cons_prefix_cons.mpr ⟨rfl, ih⟩
  | trial later ih => exact ih

end CutOff

end Search
end ReversibleGrammar
