/-
# Lexemes of the notation

White space and comments, which run from two slashes to the end of the line,
may stand before every lexeme. A reader of a lexeme skips them, takes the
lexeme off the text and returns what is left, which is shorter; or it says what
it expected and where.

Key definitions: `Notation.skipBlank`, `Notation.Taken`, `Notation.readName`,
`Notation.readElement`, `Notation.readSlot`, `Notation.readString`.
Key theorems: `Notation.length_skipBlank_le`.
-/
import ReversibleGrammar.Notation.Problem
import ReversibleGrammar.Rule

namespace ReversibleGrammar
namespace Notation

/-! ### Blanks and comments -/

mutual

/-- The text without the white space and the comments in front of it. -/
def skipBlank : List Char → List Char
  | [] => []
  | '/' :: '/' :: rest => skipComment rest
  | c :: rest => if Unicode.isBlank c then skipBlank rest else c :: rest

/-- The text after the comment that it starts in. -/
def skipComment : List Char → List Char
  | [] => []
  | c :: rest => if c = '\n' then skipBlank rest else skipComment rest

end

mutual

theorem length_skipBlank_le : ∀ s : List Char, (skipBlank s).length ≤ s.length
  | [] => by simp [skipBlank]
  | '/' :: '/' :: rest => by
    have := length_skipComment_le rest
    simp only [skipBlank, List.length_cons]
    omega
  | [c] => by
    unfold skipBlank
    split <;> simp_all [skipBlank]
    split <;> simp
  | c :: d :: rest => by
    have := length_skipBlank_le (d :: rest)
    have := length_skipComment_le rest
    unfold skipBlank
    split
    · simp
    · simp only [List.length_cons] at *
      rename_i h
      cases h
      omega
    · rename_i h
      cases h
      split
      · simp only [List.length_cons] at *
        omega
      · exact Nat.le_refl _

theorem length_skipComment_le : ∀ s : List Char, (skipComment s).length ≤ s.length
  | [] => by simp [skipComment]
  | c :: rest => by
    have := length_skipBlank_le rest
    have := length_skipComment_le rest
    unfold skipComment
    split <;> simp only [List.length_cons] <;> omega

end

/-- What comes after the blanks is no longer than the text. -/
theorem length_le_of_skipBlank {s rest : List Char} (h : skipBlank s = rest) :
    rest.length ≤ s.length :=
  h ▸ length_skipBlank_le s

/-! ### What a reader returns -/

/-- A value read off a text, and the rest of the text, shorter than `bound`. -/
structure Taken (α : Type) (bound : Nat) where
  value : α
  rest : List Char
  shorter : rest.length < bound

/-- The outcome of reading a text of the length `bound`. -/
abbrev Reading (α : Type) (bound : Nat) : Type :=
  Except Problem (Taken α bound)

/-- The reader expected something where the text goes on with `rest`. -/
def missing {α : Type} {bound : Nat} (what : Expectation) (rest : List Char) : Reading α bound :=
  .error ⟨.expected what, rest⟩

/-- A rest that is shorter than one bound is shorter than every larger one. -/
def Taken.weaken {α : Type} {m n : Nat} (t : Taken α m) (h : m ≤ n) : Taken α n :=
  ⟨t.value, t.rest, Nat.lt_of_lt_of_le t.shorter h⟩

/-- Applies a function to the value that was read. -/
def Taken.map {α β : Type} {n : Nat} (f : α → β) (t : Taken α n) : Taken β n :=
  ⟨f t.value, t.rest, t.shorter⟩

/-! ### Marks -/

/-- Reads one given character. -/
def readMark (mark : Char) (s : List Char) : Reading Unit s.length :=
  match h : skipBlank s with
  | c :: rest =>
    if c = mark then
      .ok ⟨(), rest, length_le_of_skipBlank h⟩
    else missing (.mark (String.singleton mark)) (c :: rest)
  | [] => missing (.mark (String.singleton mark)) []

/-- Reads the mark between the symbol and the elements of a rule. -/
def readDefines (s : List Char) : Reading Unit s.length :=
  match h : skipBlank s with
  | ':' :: ':' :: '=' :: rest =>
    .ok ⟨(), rest, by
      have := length_le_of_skipBlank h
      simp only [List.length_cons] at this
      omega⟩
  | other => missing (.mark "::=") other

/-! ### Names -/

/-- An ASCII letter or an underscore. -/
def isNameStart (c : Char) : Bool :=
  c.isAlpha || c == '_'

/-- An ASCII letter, a digit, or one of `_`, `?` and `-`. -/
def isNameChar (c : Char) : Bool :=
  c.isAlphanum || c == '_' || c == '?' || c == '-'

/-- An ASCII letter, a digit or an underscore. -/
def isAttributeChar (c : Char) : Bool :=
  c.isAlphanum || c == '_'

theorem length_dropWhile_le (p : Char → Bool) : ∀ s : List Char,
    (s.dropWhile p).length ≤ s.length
  | [] => Nat.le_refl _
  | c :: rest => by
    have := length_dropWhile_le p rest
    rw [List.dropWhile_cons]
    split <;> simp only [List.length_cons] <;> omega

/-- Reads a name. -/
def readName (s : List Char) : Reading String s.length :=
  match h : skipBlank s with
  | c :: rest =>
    if isNameStart c then
      .ok ⟨String.ofList (c :: rest.takeWhile isNameChar), rest.dropWhile isNameChar,
        Nat.lt_of_le_of_lt (length_dropWhile_le _ rest) (length_le_of_skipBlank h)⟩
    else missing .name (c :: rest)
  | [] => missing .name []

/-! ### Quoted text -/

/-- The characters before the closing quote, and the rest after it. A backslash
stands for the character after it, which is no newline; a newline on its own is
read only in a text of several lines. -/
def quoted (close : Char) (lines : Bool) : (s : List Char) → Option (Taken (List Char) s.length)
  | [] => none
  | [c] => if c = close then some ⟨[], [], by simp⟩ else none
  | c :: d :: rest =>
    if c = close then some ⟨[], d :: rest, by simp⟩
    else if c = '\\' then
      if d = '\n' then none
      else (quoted close lines rest).map fun t =>
        ⟨d :: t.value, t.rest, Nat.lt_add_right 2 t.shorter⟩
    else if c = '\n' && !lines then none
    else (quoted close lines (d :: rest)).map fun t =>
      ⟨c :: t.value, t.rest, Nat.lt_add_right 1 t.shorter⟩

/-- Reads a string in double quotes, which may run over several lines. -/
def readString (s : List Char) : Reading String s.length :=
  match h : skipBlank s with
  | '"' :: rest =>
    match quoted '"' true rest with
    | some t =>
      .ok ((t.map String.ofList).weaken (Nat.le_of_lt (length_le_of_skipBlank h)))
    | none => missing .string ('"' :: rest)
  | other => missing .string other

/-- Reads the literal that starts with a single quote; it is not empty and stays
on its line. -/
def readLiteral (s : List Char) : Reading String s.length :=
  match h : skipBlank s with
  | '\'' :: rest =>
    match quoted '\'' false rest with
    | some t =>
      if t.value.isEmpty then missing .literal ('\'' :: rest)
      else .ok ((t.map String.ofList).weaken (Nat.le_of_lt (length_le_of_skipBlank h)))
    | none => missing .literal ('\'' :: rest)
  | other => missing .literal other

/-! ### Elements -/

/-- Reads a class of terminals in angle brackets; there is one, `<text>`. -/
def readClass (s : List Char) : Reading Terminal s.length :=
  match h : skipBlank s with
  | '<' :: rest =>
    match h' : rest.dropWhile isNameStart with
    | '>' :: after =>
      let name := rest.takeWhile isNameStart
      if name.isEmpty then missing .terminalClass ('<' :: rest)
      else if name = ['t', 'e', 'x', 't'] then
        .ok ⟨.textSpan, after, by
          have := length_le_of_skipBlank h
          have := length_dropWhile_le isNameStart rest
          rw [h'] at this
          simp only [List.length_cons] at *
          omega⟩
      else .error ⟨.unknownClass (String.ofList name), '<' :: rest⟩
    | _ => missing .terminalClass ('<' :: rest)
  | other => missing .terminalClass other

/-- Reads an element of a right-hand side. -/
def readElement (s : List Char) : Reading Element s.length :=
  match skipBlank s with
  | '\'' :: _ => (readLiteral s).map (·.map fun token => .terminal (.literal token))
  | '<' :: _ => (readClass s).map (·.map .terminal)
  | _ => (readName s).map (·.map .symbol)

/-! ### Slots -/

/-- The number that decimal digits write. -/
def digitsValue (digits : List Char) : Nat :=
  digits.foldl (fun n c => 10 * n + (c.toNat - '0'.toNat)) 0

/-- The attribute after the index of a slot, if one follows, and the rest. -/
def attributeAfter : (s : List Char) → Option (List Char) × List Char
  | '.' :: c :: rest =>
    if isNameStart c then
      (some (c :: rest.takeWhile isAttributeChar), rest.dropWhile isAttributeChar)
    else (none, '.' :: c :: rest)
  | s => (none, s)

theorem length_attributeAfter_le (s : List Char) : (attributeAfter s).2.length ≤ s.length := by
  unfold attributeAfter
  split
  · rename_i c rest
    have := length_dropWhile_le isAttributeChar rest
    split <;> simp only [List.length_cons] <;> omega
  · exact Nat.le_refl _

/-- The text of a slot. -/
def slotText (digits : List Char) : Option (List Char) → List Char
  | none => '$' :: digits
  | some attr => '$' :: digits ++ '.' :: attr

/-- Reads a slot, an index of at most 64 bits that an attribute may follow. -/
def readSlot (s : List Char) : Reading Template s.length :=
  match h : skipBlank s with
  | '$' :: rest =>
    let digits := rest.takeWhile Char.isDigit
    let after := attributeAfter (rest.dropWhile Char.isDigit)
    if digits.isEmpty then missing .slot ('$' :: rest)
    else if digitsValue digits < UInt64.size then
      .ok ⟨.slot (digitsValue digits) (after.1.map String.ofList), after.2, by
        have := length_le_of_skipBlank h
        have := length_dropWhile_le Char.isDigit rest
        have : after.2.length ≤ _ := length_attributeAfter_le (rest.dropWhile Char.isDigit)
        simp only [List.length_cons] at *
        omega⟩
    else .error ⟨.badIndex (String.ofList (slotText digits after.1)), '$' :: rest⟩
  | other => missing .slot other

end Notation
end ReversibleGrammar
