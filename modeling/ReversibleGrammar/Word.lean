/-
# Words

A sentence is a list of words. A word is either a marker, one token that the
grammar names literally, or a text span, a run of other tokens packed
together.

Key definitions: `Word`, `Word.marker?`, `Word.tokens`, `Word.display`.
-/

namespace ReversibleGrammar

/-- An atomic word of a sentence. -/
inductive Word where
  /-- A token that some rule names literally. -/
  | marker (token : String)
  /-- A run of tokens that no rule names. -/
  | text (tokens : List String)
deriving DecidableEq, Repr

namespace Word

/-- Whether the word is a text span. -/
def isText : Word → Bool
  | marker _ => false
  | text _ => true

/-- The token of a marker, and nothing for a text span. -/
def marker? : Word → Option String
  | marker token => some token
  | text _ => none

/-- The tokens that the word stands for, in order. -/
def tokens : Word → List String
  | marker token => [token]
  | text tokens => tokens

/-- The tokens of the word with single spaces between them. -/
def display (w : Word) : String :=
  " ".intercalate w.tokens

end Word

end ReversibleGrammar
