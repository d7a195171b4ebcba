/-
# What readers of lexemes take

For each reader of a lexeme: which texts it takes a value off, what the value is, and
what it leaves. A quoted text is described by a relation of its own, character by
character. Whatever comes of reading, success or not, is about an end of the text: what
is left of it, or the place of the problem.

Key definitions: `Notation.Reading.Takes`, `Notation.Problem.Within`,
`Notation.Reading.Inside`, `Notation.Quoted`, `Notation.unescape`.
Key theorems: `Notation.Quoted.iff_of_some`, `Notation.readMark_takes_iff`,
`Notation.readName_takes_iff`, `Notation.readString_takes_iff`,
`Notation.readElement_takes_iff`, `Notation.readSlot_takes_iff`.
-/
import ReversibleGrammar.Proofs.Notation.Blank

namespace ReversibleGrammar
namespace Notation

variable {α β : Type} {n : Nat} {s rest : List Char}

/-- The reader takes a value off its text and leaves the rest. -/
def Reading.Takes (r : Reading α n) (a : α) (rest : List Char) : Prop :=
  ∃ shorter, r = .ok ⟨a, rest, shorter⟩

/-- A problem that a reader meets in a text: its place is an end of the text with no blanks
in front, and it is not that there are no rules at all. -/
structure Problem.Within (problem : Problem) (s : List Char) : Prop where
  place : problem.rest <:+ s
  met : problem.cause ≠ .noRules
  settled : skipBlank problem.rest = problem.rest

/-- Readers meet their problems where the blanks of a text end. -/
theorem Problem.Within.of_skipBlank {cause : Cause} (seen : skipBlank s = rest)
    (met : cause ≠ .noRules) : Problem.Within ⟨cause, rest⟩ s where
  place := seen ▸ skipBlank_suffix s
  met := met
  settled := by
    rw [← seen]
    exact skipBlank_skipBlank s

theorem Problem.Within.of_suffix {problem : Problem} (h : problem.Within rest) (behind : rest <:+ s) :
    problem.Within s :=
  ⟨h.place.trans behind, h.met, h.settled⟩

/-- What is left of a text is an end of it, and a problem is one in it. -/
def Reading.Inside (r : Reading α n) (s : List Char) : Prop :=
  match r with
  | .ok taken => taken.rest <:+ s
  | .error problem => problem.Within s

theorem Reading.takes_ok_iff {a b : α} {left : List Char} {shorter : left.length < n} :
    Reading.Takes (.ok ⟨a, left, shorter⟩) b rest ↔ a = b ∧ left = rest := by
  constructor
  · rintro ⟨_, h⟩
    cases h
    exact ⟨rfl, rfl⟩
  · rintro ⟨rfl, rfl⟩
    exact ⟨shorter, rfl⟩

theorem Reading.Takes.shorter {r : Reading α n} {a : α} (h : r.Takes a rest) : rest.length < n := by
  obtain ⟨shorter, -⟩ := h
  exact shorter

theorem Reading.not_takes_error {problem : Problem} {a : α} :
    ¬ Reading.Takes (n := n) (.error problem) a rest := by
  rintro ⟨_, h⟩
  cases h

theorem Reading.map_takes_iff {r : Reading α n} {f : α → β} {b : β} :
    Reading.Takes (r.map (·.map f)) b rest ↔ ∃ a, r.Takes a rest ∧ f a = b := by
  constructor
  · rcases r with problem | ⟨a, left, shorter⟩
    · exact fun h => absurd h Reading.not_takes_error
    · intro h
      obtain ⟨value, isRest⟩ := Reading.takes_ok_iff.mp h
      exact ⟨a, Reading.takes_ok_iff.mpr ⟨rfl, isRest⟩, value⟩
  · rintro ⟨a, ⟨shorter, rfl⟩, rfl⟩
    exact ⟨shorter, rfl⟩

theorem Reading.Inside.map {r : Reading α n} (h : r.Inside s) (f : α → β) :
    Reading.Inside (r.map (·.map f)) s := by
  cases r <;> exact h

theorem Reading.Inside.of_takes {r : Reading α n} {a : α} (h : r.Inside s) (takes : r.Takes a rest) :
    rest <:+ s := by
  obtain ⟨_, rfl⟩ := takes
  exact h

theorem Reading.Inside.of_error {r : Reading α n} {problem : Problem} (h : r.Inside s)
    (error : r = .error problem) : problem.Within s := by
  rw [error] at h
  exact h

theorem inside_missing {what : Expectation} (seen : skipBlank s = rest) :
    (missing what rest : Reading α n).Inside s :=
  Problem.Within.of_skipBlank seen (by simp)

/-! ### Marks -/

theorem readMark_takes_iff {mark : Char} :
    (readMark mark s).Takes () rest ↔ skipBlank s = mark :: rest := by
  unfold readMark
  split
  · rename_i c left h
    split
    · rename_i isMark
      rw [Reading.takes_ok_iff, h, List.cons.injEq]
      exact ⟨fun same => ⟨isMark, same.2⟩, fun same => ⟨rfl, same.2⟩⟩
    · rename_i other
      rw [h, List.cons.injEq]
      exact iff_of_false Reading.not_takes_error fun same => other same.1
  · rename_i h
    rw [h]
    exact iff_of_false Reading.not_takes_error (List.cons_ne_nil mark rest).symm

theorem readDefines_takes_iff :
    (readDefines s).Takes () rest ↔ skipBlank s = ':' :: ':' :: '=' :: rest := by
  unfold readDefines
  split
  · rename_i left h
    rw [Reading.takes_ok_iff, h]
    simp
  · rename_i other
    exact iff_of_false Reading.not_takes_error fun same => other _ same

/-! ### Names -/

theorem readName_takes_iff {name : String} :
    (readName s).Takes name rest ↔ ∃ c tail, skipBlank s = c :: tail ∧ isNameStart c = true ∧
      String.ofList (c :: tail.takeWhile isNameChar) = name ∧ tail.dropWhile isNameChar = rest := by
  unfold readName
  split
  · rename_i c tail h
    split
    · rename_i start
      rw [Reading.takes_ok_iff, h]
      constructor
      · rintro ⟨value, left⟩
        exact ⟨c, tail, rfl, start, value, left⟩
      · rintro ⟨_, _, same, -, value, left⟩
        cases same
        exact ⟨value, left⟩
    · rename_i noStart
      rw [h]
      refine iff_of_false Reading.not_takes_error ?_
      rintro ⟨_, _, same, start, -⟩
      cases same
      exact noStart start
  · rename_i h
    rw [h]
    refine iff_of_false Reading.not_takes_error ?_
    rintro ⟨_, _, same, -⟩
    cases same

/-- A name is read where the blanks of the text end. -/
theorem readName_takes_of_skipBlank_eq {s' : List Char} {name : String} (same : skipBlank s' = skipBlank s)
    (h : (readName s).Takes name rest) : (readName s').Takes name rest := by
  rw [readName_takes_iff, same, ← readName_takes_iff]
  exact h

theorem eq_of_readName_error {problem : Problem} (h : readName s = .error problem) :
    problem = ⟨.expected .name, skipBlank s⟩ := by
  unfold readName at h
  split at h
  · rename_i seen
    split at h <;> cases h
    rw [seen]
  · rename_i seen
    cases h
    rw [seen]

/-- Where no name is read, it is missing where the blanks of the text end. -/
theorem readName_error_of_skipBlank_eq {s' : List Char} {problem : Problem}
    (same : skipBlank s' = skipBlank s) (h : readName s = .error problem) :
    readName s' = .error problem := by
  cases h' : readName s' with
  | error problem' => rw [eq_of_readName_error h, eq_of_readName_error h', same]
  | ok taken =>
    have takes : (readName s').Takes taken.value taken.rest := ⟨taken.shorter, h'⟩
    obtain ⟨_, takes'⟩ := readName_takes_of_skipBlank_eq same.symm takes
    cases h.symm.trans takes'

/-! ### Quoted text -/

/-- A text that is quoted up to the closing character, what it stands for, and what
follows. Only a text of several lines holds newlines, and none of them behind a backslash. -/
inductive Quoted (close : Char) (lines : Bool) : List Char → List Char → List Char → Prop
  | closed {rest : List Char} : Quoted close lines (close :: rest) [] rest
  | escaped {d : Char} {s content rest : List Char} (noNewline : d ≠ '\n')
    (more : Quoted close lines s content rest) :
    Quoted close lines ('\\' :: d :: s) (d :: content) rest
  | bare {c : Char} {s content rest : List Char} (inside : c ≠ close) (noEscape : c ≠ '\\')
    (onLine : c = '\n' → lines = true) (more : Quoted close lines s content rest) :
    Quoted close lines (c :: s) (c :: content) rest

variable {close : Char} {lines : Bool} {content : List Char}

theorem Quoted.of_quoted : ∀ {s : List Char} {t : Taken (List Char) s.length},
    quoted close lines s = some t → Quoted close lines s t.value t.rest
  | [], _, h => by cases h
  | [c], t, h => by
    unfold quoted at h
    split at h
    · rename_i isClose
      subst isClose
      cases h
      exact .closed
    · cases h
  | c :: d :: s, t, h => by
    unfold quoted at h
    by_cases isClose : c = close
    · subst isClose
      rw [if_pos rfl] at h
      cases h
      exact .closed
    · rw [if_neg isClose] at h
      by_cases isBackslash : c = '\\'
      · subst isBackslash
        rw [if_pos rfl] at h
        split at h
        · cases h
        · rename_i noNewline
          obtain ⟨t', found, rfl⟩ := Option.map_eq_some_iff.mp h
          exact .escaped noNewline (of_quoted found)
      · rw [if_neg isBackslash] at h
        split at h
        · cases h
        · rename_i onLine
          obtain ⟨t', found, rfl⟩ := Option.map_eq_some_iff.mp h
          refine .bare isClose isBackslash (fun newline => ?_) (of_quoted found)
          simpa [newline] using onLine

theorem Quoted.exists_quoted (noBackslash : close ≠ '\\') {s content rest : List Char}
    (h : Quoted close lines s content rest) :
    ∃ t, quoted close lines s = some t ∧ t.value = content ∧ t.rest = rest := by
  induction h with
  | @closed rest =>
    cases rest with
    | nil => exact ⟨_, if_pos rfl, rfl, rfl⟩
    | cons d rest => exact ⟨_, if_pos rfl, rfl, rfl⟩
  | @escaped d s content rest noNewline more ih =>
    obtain ⟨t, found, rfl, rfl⟩ := ih
    unfold quoted
    rw [if_neg noBackslash.symm, if_pos rfl, if_neg noNewline, found]
    exact ⟨_, rfl, rfl, rfl⟩
  | @bare c s content rest inside noEscape onLine more ih =>
    obtain ⟨t, found, rfl, rfl⟩ := ih
    cases s with
    | nil => cases found
    | cons d s =>
      have noBreak : ¬ ((decide (c = '\n') && !lines) = true) := by
        simpa using onLine
      unfold quoted
      rw [if_neg inside, if_neg noEscape, if_neg noBreak, found]
      exact ⟨_, rfl, rfl, rfl⟩

theorem Quoted.iff_of_some (noBackslash : close ≠ '\\') {s : List Char}
    {t : Taken (List Char) s.length} (found : quoted close lines s = some t) :
    Quoted close lines s content rest ↔ t.value = content ∧ t.rest = rest := by
  constructor
  · intro h
    obtain ⟨t', found', value, left⟩ := h.exists_quoted noBackslash
    cases found.symm.trans found'
    exact ⟨value, left⟩
  · rintro ⟨rfl, rfl⟩
    exact .of_quoted found

theorem Quoted.not_of_none (noBackslash : close ≠ '\\') {s : List Char}
    (none : quoted close lines s = none) : ¬ Quoted close lines s content rest := by
  intro h
  obtain ⟨t, found, -⟩ := h.exists_quoted noBackslash
  cases none.symm.trans found

/-- More text behind the closing quote is left as well. -/
theorem Quoted.append {s content rest : List Char} (h : Quoted close lines s content rest)
    (t : List Char) : Quoted close lines (s ++ t) content (rest ++ t) := by
  induction h with
  | closed => exact .closed
  | escaped noNewline more ih => exact .escaped noNewline ih
  | bare inside noEscape onLine more ih => exact .bare inside noEscape onLine ih

theorem Quoted.suffix {s content rest : List Char} (h : Quoted close lines s content rest) :
    rest <:+ s := by
  induction h with
  | closed => exact List.suffix_cons _ _
  | escaped noNewline more ih => exact (ih.trans (List.suffix_cons _ _)).trans (List.suffix_cons _ _)
  | bare inside noEscape onLine more ih => exact ih.trans (List.suffix_cons _ _)

/-- A quoted text of one line stands for no newline. -/
theorem Quoted.newline_not_mem {s content rest : List Char}
    (h : Quoted close false s content rest) : '\n' ∉ content := by
  induction h with
  | closed => exact List.not_mem_nil
  | escaped noNewline more ih => exact List.not_mem_cons_of_ne_of_not_mem noNewline.symm ih
  | @bare c s content rest inside noEscape onLine more ih =>
    have noNewline : c ≠ '\n' := fun newline => absurd (onLine newline) Bool.false_ne_true
    exact List.not_mem_cons_of_ne_of_not_mem noNewline.symm ih

/-- What characters stand for when a backslash only marks the character after it. -/
def unescape : List Char → List Char
  | [] => []
  | [c] => if c = '\\' then [] else [c]
  | c :: d :: rest => if c = '\\' then d :: unescape rest else c :: unescape (d :: rest)

theorem unescape_cons {c : Char} (noEscape : c ≠ '\\') (s : List Char) :
    unescape (c :: s) = c :: unescape s := by
  cases s with
  | nil => exact if_neg noEscape
  | cons d rest => exact if_neg noEscape

/-- The closing quote is there, and what is quoted can be read off the text before it. -/
theorem Quoted.exists_raw {s content rest : List Char} (h : Quoted close lines s content rest) :
    ∃ raw, s = raw ++ close :: rest ∧ unescape raw = content := by
  induction h with
  | closed => exact ⟨[], rfl, rfl⟩
  | @escaped d s content rest noNewline more ih =>
    obtain ⟨raw, rfl, value⟩ := ih
    refine ⟨'\\' :: d :: raw, rfl, ?_⟩
    rw [unescape, if_pos rfl, value]
  | @bare c s content rest inside noEscape onLine more ih =>
    obtain ⟨raw, rfl, value⟩ := ih
    refine ⟨c :: raw, rfl, ?_⟩
    rw [unescape_cons noEscape, value]

theorem readString_takes_iff {text : String} :
    (readString s).Takes text rest ↔
      ∃ inside, skipBlank s = '"' :: inside ∧ Quoted '"' true inside text.toList rest := by
  unfold readString
  split
  · rename_i inside h
    split
    · rename_i t found
      constructor
      · rintro ⟨_, same⟩
        cases same
        have value : t.value = (String.ofList t.value).toList := String.toList_ofList.symm
        exact ⟨inside, h, (Quoted.iff_of_some (by decide) found).mpr ⟨value, rfl⟩⟩
      · rintro ⟨_, h', isQuoted⟩
        cases h.symm.trans h'
        obtain ⟨value, left⟩ := (Quoted.iff_of_some (by decide) found).mp isQuoted
        refine Reading.takes_ok_iff.mpr ⟨?_, left⟩
        exact (congrArg String.ofList value).trans String.ofList_toList
    · rename_i none
      refine iff_of_false Reading.not_takes_error ?_
      rintro ⟨_, h', isQuoted⟩
      cases h.symm.trans h'
      exact Quoted.not_of_none (by decide) none isQuoted
  · rename_i other
    refine iff_of_false Reading.not_takes_error ?_
    rintro ⟨inside, h, -⟩
    exact other inside h

theorem readLiteral_takes_iff {token : String} :
    (readLiteral s).Takes token rest ↔
      ∃ inside, skipBlank s = '\'' :: inside ∧ token ≠ "" ∧
        Quoted '\'' false inside token.toList rest := by
  unfold readLiteral
  split
  · rename_i inside h
    split
    · rename_i t found
      constructor
      · intro takes
        split at takes
        · exact absurd takes Reading.not_takes_error
        · rename_i notEmpty
          obtain ⟨_, same⟩ := takes
          cases same
          have value : t.value = (String.ofList t.value).toList := String.toList_ofList.symm
          refine ⟨inside, h, ?_, (Quoted.iff_of_some (by decide) found).mpr ⟨value, rfl⟩⟩
          intro empty
          apply notEmpty
          rw [List.isEmpty_iff, value, String.toList_eq_nil_iff]
          exact empty
      · rintro ⟨_, h', notEmpty, isQuoted⟩
        cases h.symm.trans h'
        obtain ⟨value, left⟩ := (Quoted.iff_of_some (by decide) found).mp isQuoted
        have some_value : ¬ (t.value.isEmpty = true) := by
          rw [value, List.isEmpty_iff, String.toList_eq_nil_iff]
          exact notEmpty
        rw [if_neg some_value]
        refine Reading.takes_ok_iff.mpr ⟨?_, left⟩
        exact (congrArg String.ofList value).trans String.ofList_toList
    · rename_i none
      refine iff_of_false Reading.not_takes_error ?_
      rintro ⟨_, h', -, isQuoted⟩
      cases h.symm.trans h'
      exact Quoted.not_of_none (by decide) none isQuoted
  · rename_i other
    refine iff_of_false Reading.not_takes_error ?_
    rintro ⟨inside, h, -⟩
    exact other inside h

/-! ### Elements -/

theorem isNameStart_of_mem_text : ∀ d ∈ ['t', 'e', 'x', 't'], isNameStart d = true := by
  simp only [List.forall_mem_cons]
  exact ⟨by decide, by decide, by decide, by decide, nofun⟩

theorem takeWhile_text (rest : List Char) :
    ('t' :: 'e' :: 'x' :: 't' :: '>' :: rest).takeWhile isNameStart = ['t', 'e', 'x', 't'] := by
  apply takeWhile_run isNameStart_of_mem_text
  rintro _ _ ⟨⟩
  decide

theorem dropWhile_text (rest : List Char) :
    ('t' :: 'e' :: 'x' :: 't' :: '>' :: rest).dropWhile isNameStart = '>' :: rest := by
  apply dropWhile_run isNameStart_of_mem_text
  rintro _ _ ⟨⟩
  decide

theorem readClass_takes_iff {terminal : Terminal} :
    (readClass s).Takes terminal rest ↔
      terminal = .textSpan ∧ skipBlank s = '<' :: 't' :: 'e' :: 'x' :: 't' :: '>' :: rest := by
  unfold readClass
  split
  · rename_i inside h
    split
    · rename_i after h'
      have whole : inside.takeWhile isNameStart ++ '>' :: after = inside := by
        rw [← h', List.takeWhile_append_dropWhile]
      dsimp only
      constructor
      · intro takes
        split at takes
        · exact absurd takes Reading.not_takes_error
        · split at takes
          · rename_i isText
            obtain ⟨value, rfl⟩ := Reading.takes_ok_iff.mp takes
            rw [isText] at whole
            exact ⟨value.symm, h.trans (congrArg ('<' :: ·) whole.symm)⟩
          · exact absurd takes Reading.not_takes_error
      · rintro ⟨rfl, isText⟩
        cases h.symm.trans isText
        rw [dropWhile_text, List.cons.injEq] at h'
        rw [if_neg (by rw [takeWhile_text]; decide), if_pos (takeWhile_text rest)]
        exact Reading.takes_ok_iff.mpr ⟨rfl, h'.2.symm⟩
    · rename_i other
      refine iff_of_false Reading.not_takes_error ?_
      rintro ⟨-, isText⟩
      cases h.symm.trans isText
      exact other rest (dropWhile_text rest)
  · rename_i other
    refine iff_of_false Reading.not_takes_error ?_
    rintro ⟨-, h⟩
    exact other _ h

/-- The brackets of an unknown class are both there. -/
theorem exists_of_unknownClass {name : String} {place : List Char}
    (h : readClass s = .error ⟨.unknownClass name, place⟩) :
    ∃ rest, place = '<' :: name.toList ++ '>' :: rest := by
  unfold readClass at h
  split at h
  · rename_i inside seen
    split at h
    · rename_i after stop
      have whole : inside.takeWhile isNameStart ++ '>' :: after = inside := by
        rw [← stop, List.takeWhile_append_dropWhile]
      dsimp only at h
      split at h
      · cases h
      · split at h
        · cases h
        · cases h
          refine ⟨after, ?_⟩
          rw [String.toList_ofList, List.cons_append, whole]
    · cases h
  · cases h

/-- A name is seen by its first character. -/
theorem exists_nameStart_of_takes {name : String} (h : (readName s).Takes name rest) :
    ∃ c tail, skipBlank s = c :: tail ∧ isNameStart c = true := by
  obtain ⟨c, tail, seen, start, -⟩ := readName_takes_iff.mp h
  exact ⟨c, tail, seen, start⟩

/-- No name is seen where another character is. -/
theorem not_takes_name {c : Char} {tail : List Char} {name : String} (seen : skipBlank s = c :: tail)
    (noStart : isNameStart c = false) : ¬ (readName s).Takes name rest := by
  intro takes
  obtain ⟨_, _, seen', start⟩ := exists_nameStart_of_takes takes
  cases seen.symm.trans seen'
  rw [noStart] at start
  cases start

/-- An element is a literal, the class of text spans, or a symbol. -/
theorem readElement_takes_iff {element : Element} :
    (readElement s).Takes element rest ↔
      (∃ token, (readLiteral s).Takes token rest ∧ .terminal (.literal token) = element) ∨
      ((readClass s).Takes .textSpan rest ∧ .terminal .textSpan = element) ∨
      ∃ name, (readName s).Takes name rest ∧ .symbol name = element := by
  unfold readElement
  split
  · rename_i tail seen
    rw [Reading.map_takes_iff]
    refine ⟨.inl, ?_⟩
    rintro (literal | ⟨isClass, -⟩ | ⟨name, isName, -⟩)
    · exact literal
    · cases seen.symm.trans (readClass_takes_iff.mp isClass).2
    · exact absurd isName (not_takes_name seen (by decide))
  · rename_i tail seen
    rw [Reading.map_takes_iff]
    constructor
    · rintro ⟨terminal, isClass, rfl⟩
      obtain ⟨rfl, -⟩ := readClass_takes_iff.mp isClass
      exact .inr (.inl ⟨isClass, rfl⟩)
    · rintro (⟨token, literal, -⟩ | isClass | ⟨name, isName, -⟩)
      · obtain ⟨_, seen', -⟩ := readLiteral_takes_iff.mp literal
        cases seen.symm.trans seen'
      · exact ⟨_, isClass⟩
      · exact absurd isName (not_takes_name seen (by decide))
  · rename_i noLiteral noClass
    rw [Reading.map_takes_iff]
    refine ⟨fun symbol => .inr (.inr symbol), ?_⟩
    rintro (⟨token, literal, -⟩ | ⟨isClass, -⟩ | symbol)
    · obtain ⟨_, seen, -⟩ := readLiteral_takes_iff.mp literal
      exact absurd seen (noLiteral _)
    · exact absurd (readClass_takes_iff.mp isClass).2 (noClass _)
    · exact symbol

/-- An element is read where the blanks of the text end. -/
theorem readElement_takes_of_skipBlank_eq {s' : List Char} {element : Element}
    (same : skipBlank s' = skipBlank s) (h : (readElement s).Takes element rest) :
    (readElement s').Takes element rest := by
  simp only [readElement_takes_iff, readLiteral_takes_iff, readClass_takes_iff, readName_takes_iff,
    same] at h ⊢
  exact h

/-! ### Slots -/

theorem readSlot_takes_iff {template : Template} :
    (readSlot s).Takes template rest ↔ ∃ tail, skipBlank s = '$' :: tail ∧
      tail.takeWhile Char.isDigit ≠ [] ∧
      digitsValue (tail.takeWhile Char.isDigit) < UInt64.size ∧
      .slot (digitsValue (tail.takeWhile Char.isDigit))
        ((attributeAfter (tail.dropWhile Char.isDigit)).1.map String.ofList) = template ∧
      (attributeAfter (tail.dropWhile Char.isDigit)).2 = rest := by
  unfold readSlot
  split
  · rename_i tail h
    dsimp only
    constructor
    · intro takes
      split at takes
      · exact absurd takes Reading.not_takes_error
      · rename_i digits
        split at takes
        · rename_i fits
          obtain ⟨value, left⟩ := Reading.takes_ok_iff.mp takes
          exact ⟨tail, h, fun none => digits (List.isEmpty_iff.mpr none), fits, value, left⟩
        · exact absurd takes Reading.not_takes_error
    · rintro ⟨_, h', digits, fits, value, left⟩
      cases h.symm.trans h'
      rw [if_neg fun none => digits (List.isEmpty_iff.mp none), if_pos fits]
      exact Reading.takes_ok_iff.mpr ⟨value, left⟩
  · rename_i other
    refine iff_of_false Reading.not_takes_error ?_
    rintro ⟨tail, h, -⟩
    exact other tail h

/-! ### Whatever comes of reading -/

theorem suffix_of_dropWhile {p : Char → Bool} {c : Char} {tail left : List Char}
    (h : tail.dropWhile p = c :: left) : left <:+ tail := by
  have whole : c :: left <:+ tail := h ▸ List.dropWhile_suffix p
  exact (List.suffix_cons c left).trans whole

theorem attributeAfter_suffix (s : List Char) : (attributeAfter s).2 <:+ s := by
  unfold attributeAfter
  split
  · split
    · exact (List.dropWhile_suffix _).trans ((List.suffix_cons _ _).trans (List.suffix_cons _ _))
    · exact List.suffix_refl _
  · exact List.suffix_refl _

theorem readMark_inside (mark : Char) (s : List Char) : (readMark mark s).Inside s := by
  unfold readMark
  split
  · rename_i c rest h
    split
    · exact suffix_of_skipBlank h
    · exact inside_missing h
  · rename_i h
    exact inside_missing h

theorem readDefines_inside (s : List Char) : (readDefines s).Inside s := by
  unfold readDefines
  split
  · rename_i rest h
    have tail : ':' :: '=' :: rest <:+ s := suffix_of_skipBlank h
    exact ((List.suffix_cons _ _).trans (List.suffix_cons _ _)).trans tail
  · exact inside_missing rfl

theorem readName_inside (s : List Char) : (readName s).Inside s := by
  unfold readName
  split
  · rename_i c tail h
    split
    · exact (List.dropWhile_suffix _).trans (suffix_of_skipBlank h)
    · exact inside_missing h
  · rename_i h
    exact inside_missing h

theorem readString_inside (s : List Char) : (readString s).Inside s := by
  unfold readString
  split
  · rename_i inside h
    split
    · rename_i t found
      exact (Quoted.of_quoted found).suffix.trans (suffix_of_skipBlank h)
    · exact inside_missing h
  · exact inside_missing rfl

theorem readLiteral_inside (s : List Char) : (readLiteral s).Inside s := by
  unfold readLiteral
  split
  · rename_i inside h
    split
    · rename_i t found
      split
      · exact inside_missing h
      · exact (Quoted.of_quoted found).suffix.trans (suffix_of_skipBlank h)
    · exact inside_missing h
  · exact inside_missing rfl

theorem readClass_inside (s : List Char) : (readClass s).Inside s := by
  unfold readClass
  split
  · rename_i inside h
    split
    · rename_i after h'
      dsimp only
      split
      · exact inside_missing h
      · split
        · exact (suffix_of_dropWhile h').trans (suffix_of_skipBlank h)
        · exact .of_skipBlank h (by simp)
    · exact inside_missing h
  · exact inside_missing rfl

theorem readElement_inside (s : List Char) : (readElement s).Inside s := by
  unfold readElement
  split
  · exact (readLiteral_inside s).map _
  · exact (readClass_inside s).map _
  · exact (readName_inside s).map _

theorem readSlot_inside (s : List Char) : (readSlot s).Inside s := by
  unfold readSlot
  split
  · rename_i tail h
    dsimp only
    split
    · exact inside_missing h
    · split
      · have after : (attributeAfter (tail.dropWhile Char.isDigit)).2 <:+ tail :=
          (attributeAfter_suffix _).trans (List.dropWhile_suffix _)
        exact after.trans (suffix_of_skipBlank h)
      · exact .of_skipBlank h (by simp)
  · exact inside_missing rfl

end Notation
end ReversibleGrammar
