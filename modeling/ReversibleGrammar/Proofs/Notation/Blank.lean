/-
# Blanks between lexemes

Readers look at a text from its first character that belongs to no blank and no comment.
That part is an end of the text. A newline ends whatever the text before it leaves open,
a name, a number or a comment. So with a newline behind it a text shows the same as
before, and where it shows nothing, what comes after the newline is seen.

Key theorems: `Notation.skipBlank_suffix`, `Notation.skipBlank_of_visible`,
`Notation.skipBlank_skipBlank`, `Notation.skipBlank_append_newline`, `Notation.skipBlank_append_of_eq_cons`.
-/
import Mathlib.Data.List.Basic
import ReversibleGrammar.Notation.Lexeme

namespace ReversibleGrammar
namespace Notation

variable {s rest : List Char} {c d : Char}

/-! ### One step -/

/-- Where no comment starts, the first character is skipped or stands. -/
theorem skipBlank_cons (noComment : c = '/' → ∀ tail, rest ≠ '/' :: tail) :
    skipBlank (c :: rest) = if Unicode.isBlank c then skipBlank rest else c :: rest := by
  rw [skipBlank]
  intro tail slash slash'
  exact noComment slash tail slash'

theorem skipBlank_singleton (c : Char) :
    skipBlank [c] = if Unicode.isBlank c then [] else [c] := by
  apply skipBlank_cons
  intro _ _ h
  cases h

theorem skipBlank_two (noComment : ¬ (c = '/' ∧ d = '/')) :
    skipBlank (c :: d :: rest) = if Unicode.isBlank c then skipBlank (d :: rest) else c :: d :: rest := by
  apply skipBlank_cons
  rintro slash tail h
  cases h
  exact noComment ⟨slash, rfl⟩

theorem skipBlank_cons_of_blank (blank : Unicode.isBlank c = true) :
    skipBlank (c :: rest) = skipBlank rest := by
  rw [skipBlank_cons, if_pos blank]
  intro slash
  rw [slash] at blank
  exact absurd blank (by decide)

/-- A character that is no blank and starts no comment is where a reader looks. -/
theorem skipBlank_of_visible (visible : Unicode.isBlank c = false) (noSlash : c ≠ '/') :
    skipBlank (c :: rest) = c :: rest := by
  rw [skipBlank_cons fun slash => absurd slash noSlash, visible]
  rfl

theorem skipBlank_space (rest : List Char) : skipBlank (' ' :: rest) = skipBlank rest :=
  skipBlank_cons_of_blank (by decide)

theorem skipBlank_newline (rest : List Char) : skipBlank ('\n' :: rest) = skipBlank rest :=
  skipBlank_cons_of_blank (by decide)

/-! ### The rest is an end of the text -/

mutual

theorem skipBlank_suffix : ∀ s : List Char, skipBlank s <:+ s
  | [] => List.suffix_refl []
  | [c] => by
    rw [skipBlank_singleton]
    split
    · exact List.nil_suffix
    · exact List.suffix_refl _
  | c :: d :: rest => by
    by_cases comment : c = '/' ∧ d = '/'
    · obtain ⟨rfl, rfl⟩ := comment
      have inside : skipComment rest <:+ rest := skipComment_suffix rest
      rw [skipBlank]
      exact inside.trans ((List.suffix_cons _ _).trans (List.suffix_cons _ _))
    · rw [skipBlank_two comment]
      split
      · exact (skipBlank_suffix (d :: rest)).trans (List.suffix_cons _ _)
      · exact List.suffix_refl _

theorem skipComment_suffix : ∀ s : List Char, skipComment s <:+ s
  | [] => List.suffix_refl []
  | c :: rest => by
    rw [skipComment]
    split
    · exact (skipBlank_suffix rest).trans (List.suffix_cons _ _)
    · exact (skipComment_suffix rest).trans (List.suffix_cons _ _)

end

theorem suffix_of_skipBlank (h : skipBlank s = c :: rest) : rest <:+ s := by
  have whole : c :: rest <:+ s := h ▸ skipBlank_suffix s
  exact (List.suffix_cons c rest).trans whole

/-! ### Where the blanks end -/

mutual

theorem skipBlank_skipBlank : ∀ s : List Char, skipBlank (skipBlank s) = skipBlank s
  | [] => rfl
  | [c] => by
    by_cases blank : Unicode.isBlank c = true
    · rw [skipBlank_singleton, if_pos blank]
      rfl
    · rw [skipBlank_singleton, if_neg blank, skipBlank_singleton, if_neg blank]
  | c :: d :: rest => by
    by_cases comment : c = '/' ∧ d = '/'
    · obtain ⟨rfl, rfl⟩ := comment
      have inside : skipBlank ('/' :: '/' :: rest) = skipComment rest := by rw [skipBlank]
      rw [inside]
      exact skipBlank_skipComment rest
    · by_cases blank : Unicode.isBlank c = true
      · rw [skipBlank_two comment, if_pos blank]
        exact skipBlank_skipBlank (d :: rest)
      · rw [skipBlank_two comment, if_neg blank, skipBlank_two comment, if_neg blank]

theorem skipBlank_skipComment : ∀ s : List Char, skipBlank (skipComment s) = skipComment s
  | [] => rfl
  | c :: rest => by
    rw [skipComment]
    split
    · exact skipBlank_skipBlank rest
    · exact skipBlank_skipComment rest

end

/-- A text without blanks in front starts with a character that is none, and not with a
comment. -/
theorem visible_of_skipBlank_eq_self (h : skipBlank (c :: rest) = c :: rest) :
    Unicode.isBlank c = false ∧ ¬ ['/', '/'] <+: c :: rest := by
  constructor
  · rw [Bool.eq_false_iff]
    intro blank
    rw [skipBlank_cons_of_blank blank] at h
    have shorter : (c :: rest).length ≤ rest.length := length_le_of_skipBlank h
    rw [List.length_cons] at shorter
    omega
  · rintro ⟨tail, comment⟩
    have inside : skipBlank ('/' :: '/' :: tail) = skipComment tail := by rw [skipBlank]
    have whole : skipComment tail = '/' :: '/' :: tail := by
      rw [← comment] at h
      exact inside.symm.trans h
    have shorter : (skipComment tail).length ≤ tail.length := length_skipComment_le tail
    rw [whole, List.length_cons, List.length_cons] at shorter
    omega

/-! ### A newline behind the text -/

mutual

theorem skipBlank_append_newline (t : List Char) : ∀ s : List Char,
    skipBlank (s ++ '\n' :: t) =
      if skipBlank s = [] then skipBlank t else skipBlank s ++ '\n' :: t
  | [] => skipBlank_newline t
  | [c] => by
    -- No comment starts across the newline, for it is no slash.
    have noComment : ¬ (c = '/' ∧ '\n' = '/') := fun h => absurd h.2 (by decide)
    rw [List.singleton_append, skipBlank_two noComment, skipBlank_newline, skipBlank_singleton]
    split <;> rfl
  | c :: d :: rest => by
    by_cases comment : c = '/' ∧ d = '/'
    · obtain ⟨rfl, rfl⟩ := comment
      rw [List.cons_append, List.cons_append, skipBlank, skipBlank]
      exact skipComment_append_newline t rest
    · rw [List.cons_append, List.cons_append, skipBlank_two comment, skipBlank_two comment]
      split
      · exact skipBlank_append_newline t (d :: rest)
      · rfl

theorem skipComment_append_newline (t : List Char) : ∀ s : List Char,
    skipComment (s ++ '\n' :: t) =
      if skipComment s = [] then skipBlank t else skipComment s ++ '\n' :: t
  | [] => rfl
  | c :: rest => by
    rw [List.cons_append, skipComment, skipComment]
    split
    · exact skipBlank_append_newline t rest
    · exact skipComment_append_newline t rest

end

/-- Where a text shows something, a newline and more behind it are left for later. -/
theorem skipBlank_append_of_eq_cons (h : skipBlank s = c :: rest) (t : List Char) :
    skipBlank (s ++ '\n' :: t) = c :: (rest ++ '\n' :: t) := by
  rw [skipBlank_append_newline, h]
  rfl

/-- Where a text shows nothing, what comes behind a newline is seen. -/
theorem skipBlank_append_of_eq_nil (h : skipBlank s = []) (t : List Char) :
    skipBlank (s ++ '\n' :: t) = skipBlank t := by
  rw [skipBlank_append_newline, if_pos h]

/-! ### Runs of characters -/

variable {p : Char → Bool} {run : List Char}

theorem takeWhile_append_of_stop (stop : p c = false) (t : List Char) : ∀ s : List Char,
    (s ++ c :: t).takeWhile p = s.takeWhile p
  | [] => by simp [stop]
  | d :: s => by
    rw [List.cons_append, List.takeWhile_cons, List.takeWhile_cons, takeWhile_append_of_stop stop t s]

theorem dropWhile_append_of_stop (stop : p c = false) (t : List Char) : ∀ s : List Char,
    (s ++ c :: t).dropWhile p = s.dropWhile p ++ c :: t
  | [] => by simp [stop]
  | d :: s => by
    rw [List.cons_append, List.dropWhile_cons, List.dropWhile_cons, dropWhile_append_of_stop stop t s]
    split <;> rfl

/-- A run ends where the text goes on with another character, or with none. -/
theorem takeWhile_run (all : ∀ d ∈ run, p d = true) (stop : ∀ c tail, rest = c :: tail → p c = false) :
    (run ++ rest).takeWhile p = run := by
  rw [List.takeWhile_append_of_pos all]
  cases rest with
  | nil => exact List.append_nil run
  | cons c tail => rw [List.takeWhile_cons_of_neg (by simp [stop c tail rfl]), List.append_nil]

theorem dropWhile_run (all : ∀ d ∈ run, p d = true) (stop : ∀ c tail, rest = c :: tail → p c = false) :
    (run ++ rest).dropWhile p = rest := by
  rw [List.dropWhile_append_of_pos all]
  cases rest with
  | nil => rfl
  | cons c tail => exact List.dropWhile_cons_of_neg (by simp [stop c tail rfl])

end Notation
end ReversibleGrammar
