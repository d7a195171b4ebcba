/-
# Printed lexemes are read

Each reader of a lexeme takes just what the printer wrote, whatever follows that ends the
lexeme: behind a name a character that is none of a name, behind a slot one that is also
no dot. A string comes back as it was written, without the backslashes.

Key definitions: `Notation.Stops`.
Key theorems: `Notation.readName_takes_printed`, `Notation.readSlot_takes_printed`,
`Notation.readString_takes_printed`, `Notation.readElement_takes_printed`.
-/
import ReversibleGrammar.Proofs.Notation.Expressible
import ReversibleGrammar.Proofs.Text.Reread

namespace ReversibleGrammar
namespace Notation

variable {s rest : List Char}

/-- The text goes on with a character that no name, number or attribute goes on with. -/
def Stops (rest : List Char) : Prop :=
  ∃ c tail, rest = c :: tail ∧ isNameChar c = false ∧ c ≠ '.'

theorem stops_cons {c : Char} (stop : isNameChar c = false) (noDot : c ≠ '.') (tail : List Char) :
    Stops (c :: tail) :=
  ⟨c, tail, rfl, stop, noDot⟩

theorem Stops.noNameChar (h : Stops rest) {c : Char} {tail : List Char} (eq : rest = c :: tail) :
    isNameChar c = false := by
  obtain ⟨_, _, rfl, stop, -⟩ := h
  cases eq
  exact stop

theorem isNameChar_of_isAttributeChar {c : Char} (h : isAttributeChar c = true) :
    isNameChar c = true := by
  simp only [isAttributeChar, isNameChar, Bool.or_eq_true] at h ⊢
  exact .inl (.inl h)

theorem isNameChar_of_isDigit {c : Char} (h : c.isDigit = true) : isNameChar c = true := by
  simp [isNameChar, Char.isAlphanum, h]

theorem Stops.noAttributeChar (h : Stops rest) {c : Char} {tail : List Char} (eq : rest = c :: tail) :
    isAttributeChar c = false := by
  have stop := h.noNameChar eq
  by_contra isChar
  rw [isNameChar_of_isAttributeChar (by simpa using isChar)] at stop
  cases stop

theorem Stops.noDigit (h : Stops rest) {c : Char} {tail : List Char} (eq : rest = c :: tail) :
    c.isDigit = false := by
  have stop := h.noNameChar eq
  by_contra isDigit
  rw [isNameChar_of_isDigit (by simpa using isDigit)] at stop
  cases stop

/-! ### Names -/

theorem isIdentifier_iff {p : Char → Bool} {name : String} : isIdentifier p name = true ↔
    ∃ c tail, name.toList = c :: tail ∧ isNameStart c = true ∧ ∀ d ∈ tail, p d = true := by
  unfold isIdentifier
  split
  · rename_i none
    simp [none]
  · rename_i c tail seen
    rw [Bool.and_eq_true, List.all_eq_true]
    constructor
    · rintro ⟨start, all⟩
      exact ⟨c, tail, seen, start, all⟩
    · rintro ⟨_, _, same, start, all⟩
      cases seen.symm.trans same
      exact ⟨start, all⟩

/-- No blank starts a name: names start between the codes 65 and 122, where no blanks are. -/
theorem isBlank_of_isNameStart {c : Char} (start : isNameStart c = true) :
    Unicode.isBlank c = false := by
  have letter : 65 ≤ c.toNat ∧ c.toNat ≤ 122 := by
    rcases (Bool.or_eq_true _ _).mp start with isAlpha | isUnderscore
    · rcases (Bool.or_eq_true _ _).mp isAlpha with isUpper | isLower
      · have upper : 65 ≤ c.toNat ∧ c.toNat ≤ 90 := of_decide_eq_true isUpper
        omega
      · obtain ⟨isFrom, isTo⟩ := (Bool.and_eq_true _ _).mp isLower
        have lower : 97 ≤ c.toNat := of_decide_eq_true isFrom
        have upper : c.toNat ≤ 122 := of_decide_eq_true isTo
        omega
    · rw [beq_iff_eq.mp isUnderscore]
      decide
  cases blank : Unicode.isBlank c with
  | false => rfl
  | true =>
    obtain ⟨range, mem, first, last⟩ := Unicode.Ranges.exists_of_holds blank
    have outside : ∀ range ∈ Unicode.blanks, range.2 < 65 ∨ 122 < range.1 := by decide
    have := outside range mem
    omega

theorem skipBlank_of_nameStart {c : Char} (start : isNameStart c = true) (tail : List Char) :
    skipBlank (c :: tail) = c :: tail := by
  apply skipBlank_of_visible (isBlank_of_isNameStart start)
  rintro rfl
  cases start

theorem readName_takes_printed {name : String} (h : isName name = true)
    (stop : ∀ c tail, rest = c :: tail → isNameChar c = false) :
    (readName (name.toList ++ rest)).Takes name rest := by
  obtain ⟨c, tail, seen, start, all⟩ := isIdentifier_iff.mp h
  rw [readName_takes_iff, seen]
  refine ⟨c, tail ++ rest, skipBlank_of_nameStart start _, start, ?_, dropWhile_run all stop⟩
  rw [takeWhile_run all stop, ← seen, String.ofList_toList]

/-! ### Slots -/

theorem attributeAfter_of_stops (h : Stops rest) : attributeAfter rest = (none, rest) := by
  obtain ⟨c, tail, rfl, -, noDot⟩ := h
  unfold attributeAfter
  split
  · rename_i same
    cases same
    exact absurd rfl noDot
  · rfl

theorem attributeAfter_printed {attr : String} (h : isAttribute attr = true) (stops : Stops rest) :
    attributeAfter ('.' :: (attr.toList ++ rest)) = (some attr.toList, rest) := by
  obtain ⟨c, tail, seen, start, all⟩ := isIdentifier_iff.mp h
  have stop : ∀ c tail, rest = c :: tail → isAttributeChar c = false := fun _ _ eq => stops.noAttributeChar eq
  rw [seen, List.cons_append, attributeAfter, if_pos start, takeWhile_run all stop,
    dropWhile_run all stop]

theorem readSlot_takes_printed {index : Nat} {attr : Option String} (fits : index < UInt64.size)
    (named : ∀ name ∈ attr, isAttribute name = true) (stops : Stops rest) :
    (readSlot ((Template.displaySlot index attr).toList ++ rest)).Takes (.slot index attr) rest := by
  have all : ∀ d ∈ Nat.toDigits 10 index, d.isDigit = true := fun d mem =>
    Nat.isDigit_of_mem_toDigits (by decide) (by decide) mem
  have value : digitsValue (Nat.toDigits 10 index) = index :=
    Nat.ofDigitChars_toDigits (by decide) (by decide)
  rw [readSlot_takes_iff]
  cases attr with
  | none =>
    have stop : ∀ c tail, rest = c :: tail → c.isDigit = false := fun _ _ eq => stops.noDigit eq
    refine ⟨Nat.toDigits 10 index ++ rest, ?_, ?_⟩
    · rw [Template.displaySlot, String.toList_append, Nat.toList_repr]
      exact skipBlank_of_visible (by decide) (by decide)
    · rw [takeWhile_run all stop, dropWhile_run all stop, attributeAfter_of_stops stops, value]
      exact ⟨Nat.toDigits_ne_nil, fits, rfl, rfl⟩
  | some name =>
    have stop : ∀ c tail, '.' :: (name.toList ++ rest) = c :: tail → c.isDigit = false := by
      rintro _ _ ⟨⟩
      decide
    refine ⟨Nat.toDigits 10 index ++ '.' :: (name.toList ++ rest), ?_, ?_⟩
    · simp only [Template.displaySlot, String.toList_append, Nat.toList_repr, List.append_assoc]
      exact skipBlank_of_visible (by decide) (by decide)
    · rw [takeWhile_run all stop, dropWhile_run all stop,
        attributeAfter_printed (named name rfl) stops, value]
      refine ⟨Nat.toDigits_ne_nil, fits, ?_, rfl⟩
      simp

/-! ### Strings and literals -/

theorem Quoted.bare_run {close : Char} {lines : Bool} {content : List Char} {run : List Char}
    (all : ∀ d ∈ run, d ≠ close ∧ d ≠ '\\' ∧ (d = '\n' → lines = true))
    (more : Quoted close lines s content rest) : Quoted close lines (run ++ s) (run ++ content) rest := by
  induction run with
  | nil => exact more
  | cons d run ih =>
    obtain ⟨⟨inside, noEscape, onLine⟩, others⟩ := List.forall_mem_cons.mp all
    exact .bare inside noEscape onLine (ih others)

/-- What is written of a character is read back inside double quotes. -/
theorem Quoted.escape {c : Char} {content : List Char} (more : Quoted '"' true s content rest) :
    Quoted '"' true (Text.escape c ++ s) (Text.rereadChar c ++ content) rest := by
  have bare : ∀ d, Text.escape d = [d] → d ≠ '"' ∧ d ≠ '\\' ∧ (d = '\n' → true = true) := by
    intro d written
    obtain ⟨noQuote, noEscape⟩ := Text.ne_of_escape_eq_self written
    exact ⟨noQuote, noEscape, fun _ => rfl⟩
  rcases Text.escape_cases c with written | ⟨isQuote | isBackslash, -⟩ | ⟨run, written, some, -, all⟩
  · rw [written, Text.rereadChar_of_escape_eq_self written]
    exact Quoted.bare_run (List.forall_mem_singleton.mpr (bare c written)) more
  · subst isQuote
    exact .escaped (by decide) more
  · subst isBackslash
    exact .escaped (by decide) more
  -- The backslash takes the first character of the escape, and the others stand for themselves.
  · rw [written, Text.rereadChar_of_escape_eq_cons written]
    obtain ⟨d, run', rfl⟩ := List.exists_cons_of_ne_nil some
    obtain ⟨first, others⟩ := List.forall_mem_cons.mp all
    have noNewline : d ≠ '\n' := by
      rintro rfl
      cases first
    exact .escaped noNewline (Quoted.bare_run (fun d mem => bare d (others d mem)) more)

theorem readString_takes_printed (content : String) :
    (readString ((Text.quote content).toList ++ rest)).Takes (Text.reread content) rest := by
  have isQuoted : ∀ l : List Char,
      Quoted '"' true (l.flatMap Text.escape ++ '"' :: rest) (l.flatMap Text.rereadChar) rest := by
    intro l
    induction l with
    | nil => exact .closed
    | cons c l ih =>
      rw [List.flatMap_cons, List.flatMap_cons, List.append_assoc]
      exact ih.escape
  refine readString_takes_iff.mpr ⟨content.toList.flatMap Text.escape ++ '"' :: rest, ?_, ?_⟩
  · rw [Text.quote, String.toList_ofList, List.cons_append, List.cons_append, List.append_assoc]
    exact skipBlank_of_visible (by decide) (by decide)
  · rw [Text.reread, String.toList_ofList]
    exact isQuoted content.toList

theorem readLiteral_takes_printed {token : String} (notEmpty : token ≠ "")
    (onLine : '\n' ∉ token.toList) :
    (readLiteral ((Terminal.literal token).display.toList ++ rest)).Takes token rest := by
  have isQuoted : ∀ l : List Char, '\n' ∉ l →
      Quoted '\'' false (l.flatMap Terminal.escape ++ '\'' :: rest) l rest := by
    intro l
    induction l with
    | nil => exact fun _ => .closed
    | cons c l ih =>
      intro onLine
      rw [List.mem_cons, not_or] at onLine
      have more := ih onLine.2
      rw [List.flatMap_cons, List.append_assoc, Terminal.escape]
      split
      · rename_i isBackslash
        subst isBackslash
        exact .escaped (by decide) more
      · rename_i noBackslash
        split
        · rename_i isQuote
          subst isQuote
          exact .escaped (by decide) more
        · rename_i noQuote
          exact .bare noQuote noBackslash (fun newline => absurd newline.symm onLine.1) more
  refine readLiteral_takes_iff.mpr
    ⟨token.toList.flatMap Terminal.escape ++ '\'' :: rest, ?_, notEmpty, isQuoted _ onLine⟩
  rw [Terminal.display, String.toList_ofList, List.cons_append, List.cons_append, List.append_assoc]
  exact skipBlank_of_visible (by decide) (by decide)

theorem readElement_takes_printed {element : Element} (h : element.Expressible)
    (stop : ∀ c tail, rest = c :: tail → isNameChar c = false) :
    (readElement (element.display.toList ++ rest)).Takes element rest := by
  rw [readElement_takes_iff]
  cases h with
  | literal notEmpty onLine => exact .inl ⟨_, readLiteral_takes_printed notEmpty onLine, rfl⟩
  | textSpan =>
    refine .inr (.inl ⟨readClass_takes_iff.mpr ⟨rfl, ?_⟩, rfl⟩)
    exact skipBlank_of_visible (by decide) (by decide)
  | symbol isSymbol => exact .inr (.inr ⟨_, readName_takes_printed isSymbol stop, rfl⟩)

end Notation
end ReversibleGrammar
