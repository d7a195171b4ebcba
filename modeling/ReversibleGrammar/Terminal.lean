/-
# Terminals

A terminal stands for exactly one word of a sentence: a literal for the marker
it names, a class of words for any of its words. A class is whatever its maker
says by a test and two functions, which read a word as a value and realize a
word for what a position was given; the stock class is that of text spans.
Going backwards a terminal produces a word from what its position was given.

Key definitions: `WordClass`, `WordClass.text`, `Terminal`, `Terminal.accepts`,
`Terminal.read`, `Terminal.realize`, `Terminal.Refusal`.
-/
import ReversibleGrammar.Fragment

namespace ReversibleGrammar

/-- A class of words. Its functions are pure, and nothing is asked of them. -/
structure WordClass where
  name : String
  /-- Whether a word is of the class. -/
  accepts : Word → Bool
  /-- The value of a word of the class. -/
  read : Word → Value
  /-- The word for a value, or for none if no slot names the position; or else the
  reason why there is no such word. -/
  realize : Option Value → Except String Word

namespace WordClass

/-- The text span that realizes a value, which is the span itself. -/
def realizeText : Option Value → Except String Word
  | some (.word (.text tokens)) => .ok (.text tokens)
  | some value => .error (value.display ++ " is not a text span")
  | none => .error "no text span to realize"

/-- The class of all text spans, which go through it unchanged in both directions. -/
def text : WordClass where
  name := "text"
  accepts := Word.isText
  read := .word
  realize := realizeText

end WordClass

/-- What matches exactly one word. -/
inductive Terminal where
  /-- Matches the marker of this token. -/
  | literal (token : String)
  /-- Matches the words of a class. -/
  | ofClass (wordClass : WordClass)

namespace Terminal

/-- Matches every text span. -/
def textSpan : Terminal := ofClass .text

/-- The class of words that a terminal matches, unless it is a literal. -/
def class? : Terminal → Option WordClass
  | literal _ => none
  | ofClass c => some c

/-- How a character is written inside a literal. -/
def escape (c : Char) : List Char :=
  if c = '\\' then ['\\', '\\'] else if c = '\'' then ['\\', '\''] else [c]

/-- The text of a terminal, as grammars write it. -/
def display : Terminal → String
  | literal token => String.ofList ('\'' :: token.toList.flatMap escape ++ ['\''])
  | ofClass c => "<" ++ c.name ++ ">"

/-! ### Forwards -/

/-- Whether the terminal matches a word. -/
def accepts : Terminal → Word → Bool
  | literal token, w => w.marker? == some token
  | ofClass c, w => c.accepts w

/-- The value of a word that the terminal matches. -/
def read : Terminal → Word → Value
  | literal token, _ => .word (.marker token)
  | ofClass c, w => c.read w

/-! ### Backwards -/

/-- Why a terminal cannot produce a word. -/
inductive Refusal where
  | partialRecord (terminal : Terminal) (part : PartialRecord)
  | otherLiteral (value : Value) (token : String)
  /-- The reason is given by the class. -/
  | ofClass (reason : String)

/-- The wording of a refusal. -/
def Refusal.message : Refusal → String
  | partialRecord terminal part =>
    "terminal " ++ terminal.display ++ " cannot realize " ++ part.display
  | otherLiteral value token =>
    "different literal: " ++ value.display ++ " vs '" ++ token ++ "'"
  | ofClass reason => reason

/-- The word of a literal for a value: null, the marker itself and the string of
its token stand for it. -/
def realizeLiteral (token : String) : Option Value → Except Refusal Word
  | none => .ok (.marker token)
  | some value =>
    if value = .null ∨ value = .word (.marker token) ∨ value = .str token then .ok (.marker token)
    else .error (.otherLiteral value token)

/-- The word that a terminal produces for a whole value, or for none. -/
def realizeValue : Terminal → Option Value → Except Refusal Word
  | literal token, given => realizeLiteral token given
  | ofClass c, given => (c.realize given).mapError .ofClass

/-- The word that a position realizes; nothing is given to a position that no
slot names. -/
def realize (terminal : Terminal) : Option Fragment → Except Refusal Word
  | some (.fields part) => .error (.partialRecord terminal part)
  | some (.value value) => terminal.realizeValue (some value)
  | none => terminal.realizeValue none

theorem realizeValue_literal_eq_ok_iff {token : String} {handed : Option Value} {w : Word} :
    (literal token).realizeValue handed = .ok w ↔ w = .marker token ∧
      ∀ v, handed = some v → v = .null ∨ v = .word (.marker token) ∨ v = .str token := by
  rw [realizeValue]
  cases handed with
  | none => simp [realizeLiteral, eq_comm]
  | some v =>
    rw [realizeLiteral]
    by_cases lenient : v = .null ∨ v = .word (.marker token) ∨ v = .str token
    · simp [lenient, eq_comm]
    · simp [lenient]

theorem realizeValue_ofClass_eq_ok_iff {c : WordClass} {handed : Option Value} {w : Word} :
    (ofClass c).realizeValue handed = .ok w ↔ c.realize handed = .ok w := by
  rw [realizeValue]
  cases c.realize handed with
  | error reason => exact iff_of_false (by rintro ⟨⟩) (by rintro ⟨⟩)
  | ok word =>
    constructor
    · rintro ⟨⟩
      rfl
    · rintro ⟨⟩
      rfl

/-- A terminal that produces a word was given a whole value or nothing. -/
theorem exists_handed_of_realize {t : Terminal} {given : Option Fragment} {w : Word}
    (h : t.realize given = .ok w) :
    ∃ handed : Option Value, given = handed.map .value ∧ t.realizeValue handed = .ok w := by
  rcases given with _ | (v | part)
  · exact ⟨none, rfl, h⟩
  · exact ⟨some v, rfl, h⟩
  · cases h

theorem realize_value (t : Terminal) (v : Value) :
    t.realize (some (.value v)) = t.realizeValue (some v) := rfl

/-! ### Literals -/

theorem accepts_literal_iff {token : String} {w : Word} :
    (literal token).accepts w = true ↔ w = .marker token := by
  cases w with
  | marker other => simp [accepts, Word.marker?]
  | text tokens => simp [accepts, Word.marker?]

end Terminal

end ReversibleGrammar
