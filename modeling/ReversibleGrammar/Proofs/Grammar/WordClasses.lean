/-
# The classes of words of a grammar

Nothing is asked of a class of words when a grammar is made: it may realize a word
that it does not accept, or read a word as something else than it was realized from.
What the two searches promise of each other they promise as far as the classes do.
To realize a value is to find words that could have been read as it, so a class should
accept what it realizes (it matches), and read this as the value that was asked for
(it is exact); and a word that was read should be found again (it restores). A class
that passes words through unchanged makes none up (it conserves). The class of text
spans does all of this, and so does one that reads some spans as strings, but for the
last.

Key definitions: `WordClass.Matching`, `WordClass.Exact`, `WordClass.Restoring`,
`WordClass.Conserving`, `Grammar.classes`.
Key theorems: `Grammar.accepts_of_realize`, `WordClass.text_matching`,
`WordClass.text_exact`, `WordClass.text_restoring`, `WordClass.text_conserving`.
-/
import ReversibleGrammar.Grammar
import ReversibleGrammar.Proofs.Value.Words

namespace ReversibleGrammar

namespace WordClass

/-! ### What a class may promise -/

/-- The class accepts the words that it realizes. -/
def Matching (c : WordClass) : Prop :=
  ∀ handed w, c.realize handed = .ok w → c.accepts w = true

/-- The class reads a word that it realized from a value as this value. -/
def Exact (c : WordClass) : Prop :=
  ∀ v w, c.realize (some v) = .ok w → c.read w = v

/-- The class realizes what it reads a word of its own as by this word. -/
def Restoring (c : WordClass) : Prop :=
  ∀ w, c.accepts w = true → c.realize (some (c.read w)) = .ok w

/-- The class makes no words up: the value of a word of its own holds no other word, and
it realizes a value by text spans that occur in the value. -/
structure Conserving (c : WordClass) : Prop where
  words_read : ∀ w, c.accepts w = true → (c.read w).words ⊆ [w]
  of_realize : ∀ handed w, c.realize handed = .ok w →
    w.isText = true ∧ ∃ v, handed = some v ∧ w ∈ v.words

/-! ### Text spans -/

theorem realizeText_eq_ok_iff {handed : Option Value} {w : Word} :
    realizeText handed = .ok w ↔ w.isText = true ∧ handed = some (.word w) := by
  constructor
  · intro h
    unfold realizeText at h
    split at h
    · cases h
      exact ⟨rfl, rfl⟩
    · cases h
    · cases h
  · rintro ⟨isText, rfl⟩
    cases w with
    | marker token => cases isText
    | text tokens => rfl

theorem text_matching : text.Matching := fun _ _ realizes =>
  (realizeText_eq_ok_iff.mp realizes).1

theorem text_exact : text.Exact := by
  intro v w realizes
  obtain ⟨-, same⟩ := realizeText_eq_ok_iff.mp realizes
  exact (Option.some.inj same).symm

theorem text_restoring : text.Restoring := fun _ accepted =>
  realizeText_eq_ok_iff.mpr ⟨accepted, rfl⟩

theorem text_conserving : text.Conserving where
  words_read w _ := List.Subset.refl [w]
  of_realize handed w realizes := by
    obtain ⟨isText, rfl⟩ := realizeText_eq_ok_iff.mp realizes
    exact ⟨isText, .word w, rfl, List.mem_cons_self⟩

/-! ### Numerals -/

/-- Whether the token is a numeral in decimal digits. -/
def isNumeral (token : String) : Bool :=
  !token.toList.isEmpty && token.toList.all Char.isDigit

/-- The text span of a numeral, from its string. -/
def realizeNumeral : Option Value → Except String Word
  | some (.str token) =>
    if isNumeral token then .ok (.text [token])
    else .error ((Value.str token).display ++ " is not a numeral")
  | some v => .error (v.display ++ " is not a numeral")
  | none => .error "no numeral to realize"

/-- The class of the text spans of one numeral, whose values are strings. -/
def numeral : WordClass where
  name := "numeral"
  accepts
    | .text [token] => isNumeral token
    | _ => false
  read
    | .text [token] => .str token
    | w => .word w
  realize := realizeNumeral

theorem numeral_accepts_iff {w : Word} :
    numeral.accepts w = true ↔ ∃ token, isNumeral token = true ∧ w = .text [token] := by
  constructor
  · intro accepted
    rcases w with token | (_ | ⟨token, _ | ⟨_, _⟩⟩)
    · cases accepted
    · cases accepted
    · exact ⟨token, accepted, rfl⟩
    · cases accepted
  · rintro ⟨token, digits, rfl⟩
    exact digits

theorem realizeNumeral_eq_ok_iff {handed : Option Value} {w : Word} :
    realizeNumeral handed = .ok w ↔
      ∃ token, isNumeral token = true ∧ handed = some (.str token) ∧ w = .text [token] := by
  constructor
  · intro h
    unfold realizeNumeral at h
    split at h
    · rename_i token
      by_cases digits : isNumeral token = true
      · rw [if_pos digits] at h
        cases h
        exact ⟨token, digits, rfl, rfl⟩
      · rw [if_neg digits] at h
        cases h
    · cases h
    · cases h
  · rintro ⟨token, digits, rfl, rfl⟩
    rw [realizeNumeral, if_pos digits]

theorem numeral_matching : numeral.Matching := by
  intro handed w realizes
  obtain ⟨token, digits, -, rfl⟩ := realizeNumeral_eq_ok_iff.mp realizes
  exact numeral_accepts_iff.mpr ⟨token, digits, rfl⟩

theorem numeral_exact : numeral.Exact := by
  intro v w realizes
  obtain ⟨token, -, same, rfl⟩ := realizeNumeral_eq_ok_iff.mp realizes
  exact (Option.some.inj same).symm

theorem numeral_restoring : numeral.Restoring := by
  intro w accepted
  obtain ⟨token, digits, rfl⟩ := numeral_accepts_iff.mp accepted
  exact realizeNumeral_eq_ok_iff.mpr ⟨token, digits, rfl, rfl⟩

end WordClass

/-! ### Where classes occur -/

/-- The class of an element that is a terminal and no literal. -/
def Element.class? : Element → Option WordClass
  | terminal t => t.class?
  | symbol _ => none

theorem Element.class?_eq_some_iff {element : Element} {c : WordClass} :
    element.class? = some c ↔ element = terminal (.ofClass c) := by
  rcases element with (_ | _) | _ <;> simp [class?, Terminal.class?]

namespace Grammar

variable {g : Grammar}

/-- The classes of words that occur in the rules. -/
def classes (g : Grammar) : List WordClass :=
  g.elements.filterMap Element.class?

theorem mem_classes {c : WordClass} :
    c ∈ g.classes ↔ Element.terminal (.ofClass c) ∈ g.elements := by
  simp [classes, Element.class?_eq_some_iff]

theorem rhs_subset_elements {rule : Rule} (isRule : rule ∈ g.rules) : rule.rhs ⊆ g.elements :=
  fun _ inRule => mem_elements.mpr ⟨rule, isRule, inRule⟩

/-- Where all classes match, a terminal accepts the words that it realizes. -/
theorem accepts_of_realize (matching : ∀ c ∈ g.classes, c.Matching) {terminal : Terminal}
    (occurs : .terminal terminal ∈ g.elements) {given : Option Fragment} {w : Word}
    (realizes : terminal.realize given = .ok w) : terminal.accepts w = true := by
  obtain ⟨handed, -, realizes⟩ := Terminal.exists_handed_of_realize realizes
  cases terminal with
  | literal token =>
    exact Terminal.accepts_literal_iff.mpr (Terminal.realizeValue_literal_eq_ok_iff.mp realizes).1
  | ofClass c =>
    exact matching c (mem_classes.mpr occurs) handed w
      (Terminal.realizeValue_ofClass_eq_ok_iff.mp realizes)

end Grammar

end ReversibleGrammar
