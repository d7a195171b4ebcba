/-
# Sentences

A sentence is split into tokens, maximal runs of word characters, apostrophes
and slashes, and single punctuation marks; anything else only separates tokens.
Tokens that the grammar names literally become markers, and every run of other
tokens becomes one text span.

Words are joined into a sentence with single spaces, none before a token that is
one character and not alphabetic, and with a capital at the start and after a
full stop.

Key definitions: `Sentence.tokens`, `Sentence.pack`, `Sentence.words`,
`Sentence.join`.
-/
import ReversibleGrammar.NameSet
import ReversibleGrammar.Unicode.Alphabetic
import ReversibleGrammar.Unicode.Uppercase
import ReversibleGrammar.Unicode.WordCharacter
import ReversibleGrammar.Word

namespace ReversibleGrammar
namespace Sentence

/-! ### Tokens -/

/-- What a token of several characters consists of. -/
def isTokenChar (c : Char) : Bool :=
  Unicode.isWordCharacter c || c == '\'' || c == '/'

/-- The punctuation marks that are tokens of their own. -/
def isPoint (c : Char) : Bool :=
  c == '.' || c == ',' || c == '!' || c == '?' || c == ';'

/-- Adds a character to the front of the first token. -/
def extend (c : Char) : List (List Char) → List (List Char)
  | [] => [[c]]
  | token :: tokens => (c :: token) :: tokens

/-- The tokens of a sentence. A character of a token joins the token that starts
right after it. -/
def scan : List Char → List (List Char)
  | [] => []
  | c :: rest =>
    if isTokenChar c then
      if rest.head?.any isTokenChar then extend c (scan rest) else [c] :: scan rest
    else if isPoint c then [c] :: scan rest
    else scan rest

/-- The tokens of a sentence. -/
def tokens (sentence : String) : List String :=
  (scan sentence.toList).map String.ofList

/-! ### Words -/

/-- Adds a token that is no marker to the text span in front, or as a new one. -/
def packText (token : String) : List Word → List Word
  | .text span :: words => .text (token :: span) :: words
  | words => .text [token] :: words

/-- Markers by themselves, and runs of other tokens as text spans. -/
def pack (markers : NameSet) : List String → List Word
  | [] => []
  | token :: rest =>
    if token ∈ markers then .marker token :: pack markers rest
    else packText token (pack markers rest)

/-- The words of a sentence, with the given tokens as markers. -/
def words (markers : NameSet) (sentence : String) : List Word :=
  pack markers (tokens sentence)

/-! ### Joining -/

/-- Whether a token is a single character that is not alphabetic. -/
def isSign : List Char → Bool
  | [c] => !Unicode.isAlphabetic c
  | _ => false

/-- The token with its first character in upper case. -/
def capitalize : List Char → List Char
  | [] => []
  | c :: rest => Unicode.upperCase c ++ rest

/-- Joins tokens, of which the first stands at the start of the sentence or not,
and after a full stop or not. Empty tokens are left out. -/
def joinTokens : Bool → Bool → List (List Char) → List Char
  | _, _, [] => []
  | atStart, afterStop, [] :: rest => joinTokens atStart afterStop rest
  | atStart, afterStop, token :: rest =>
    (if atStart || isSign token then [] else [' ']) ++
      (if afterStop then capitalize token else token) ++
      joinTokens false (token == ['.']) rest

/-- The sentence of some words. -/
def join (ws : List Word) : String :=
  String.ofList (joinTokens true true ((ws.flatMap Word.tokens).map String.toList))

end Sentence
end ReversibleGrammar
