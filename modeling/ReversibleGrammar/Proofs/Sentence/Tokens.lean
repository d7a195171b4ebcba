/-
# Tokens of a sentence

A token is a run of the characters that words consist of, or a single punctuation mark. Tokens
are looked for from left to right: a run is taken as long as it goes, and a character that
belongs to no token is passed over. `Sentence.scan` goes through a sentence from its end, where
it has to know only the character after the one it looks at; it finds the same tokens.

Key definitions: `Sentence.IsRun`, `Sentence.IsMark`, `Sentence.Finds`, `Sentence.attach`.
Key theorems: `Sentence.scan_run_append`, `Sentence.finds_iff`, `Sentence.isRun_or_isMark`.
-/
import Mathlib.Data.List.TakeWhile
import ReversibleGrammar.Sentence

namespace ReversibleGrammar
namespace Sentence

variable {c : Char} {run rest : List Char} {token : List Char} {found : List (List Char)}

/-- Characters of one token, at least one. -/
def IsRun (token : List Char) : Prop :=
  token ≠ [] ∧ ∀ c ∈ token, isTokenChar c = true

/-- A punctuation mark by itself. -/
def IsMark (token : List Char) : Prop :=
  ∃ c, isPoint c = true ∧ token = [c]

/-- The tokens that are found in a text from left to right. -/
inductive Finds : List Char → List (List Char) → Prop
  | nil : Finds [] []
  /-- A run is found at its first character, and all of it. -/
  | run {token rest : List Char} {found : List (List Char)} (isRun : IsRun token)
      (ends : ∀ c ∈ rest.head?, isTokenChar c = false) (others : Finds rest found) :
      Finds (token ++ rest) (token :: found)
  | mark {c : Char} {rest : List Char} {found : List (List Char)} (isPoint : isPoint c = true)
      (others : Finds rest found) : Finds (c :: rest) ([c] :: found)
  /-- A character at which no token begins. -/
  | other {c : Char} {rest : List Char} {found : List (List Char)} (noRun : isTokenChar c = false)
      (noMark : isPoint c = false) (others : Finds rest found) : Finds (c :: rest) found

/-! ### Characters -/

/-- No punctuation mark is a character of a run. -/
theorem isTokenChar_of_isPoint (isPoint : isPoint c = true) : isTokenChar c = false := by
  have listed : c = '.' ∨ c = ',' ∨ c = '!' ∨ c = '?' ∨ c = ';' := by
    simpa [Sentence.isPoint, or_assoc] using isPoint
  rcases listed with rfl | rfl | rfl | rfl | rfl <;> decide

theorem not_isRun_mark (isPoint : isPoint c = true) : ¬ IsRun [c] := by
  intro isRun
  have inRun : isTokenChar c = true := isRun.2 c List.mem_cons_self
  rw [isTokenChar_of_isPoint isPoint] at inRun
  cases inRun

theorem IsRun.append (isRun : IsRun run) (more : ∀ c ∈ rest, isTokenChar c = true) :
    IsRun (run ++ rest) := by
  refine ⟨List.append_ne_nil_of_left_ne_nil isRun.1 rest, ?_⟩
  intro c mem
  exact (List.mem_append.mp mem).elim (isRun.2 c) (more c)

/-! ### Scanning from the front -/

/-- Puts characters in front of the first token. -/
def attach (run : List Char) : List (List Char) → List (List Char)
  | [] => [run]
  | token :: tokens => (run ++ token) :: tokens

theorem extend_eq (c : Char) (found : List (List Char)) : extend c found = attach [c] found := by
  cases found <;> rfl

theorem attach_cons (c : Char) (run : List Char) (found : List (List Char)) :
    attach [c] (attach run found) = attach (c :: run) found := by
  cases found <;> rfl

theorem scan_point (isPoint : isPoint c = true) : scan (c :: rest) = [c] :: scan rest := by
  rw [scan, isTokenChar_of_isPoint isPoint, isPoint]
  rfl

theorem scan_other (noRun : isTokenChar c = false) (noMark : isPoint c = false) :
    scan (c :: rest) = scan rest := by
  rw [scan, noRun, noMark]
  rfl

/-- A run is a token of its own, unless the text goes on with another character of a run. -/
theorem scan_run_append (isRun : IsRun run) (rest : List Char) :
    scan (run ++ rest) =
      if rest.head?.any isTokenChar then attach run (scan rest) else run :: scan rest := by
  induction run with
  | nil => exact absurd rfl isRun.1
  | cons c run ih =>
    have first : isTokenChar c = true := isRun.2 c List.mem_cons_self
    rw [List.cons_append, scan, if_pos first, extend_eq]
    by_cases single : run = []
    · rw [single, List.nil_append]
    · have isRun : IsRun run := ⟨single, fun d mem => isRun.2 d (List.mem_cons_of_mem c mem)⟩
      have goesOn : (run ++ rest).head?.any isTokenChar = true := by
        obtain ⟨d, more, rfl⟩ := List.exists_cons_of_ne_nil single
        exact isRun.2 d List.mem_cons_self
      rw [if_pos goesOn, ih isRun]
      split
      · rw [attach_cons]
      · rfl

/-- The whole of a run is a token. -/
theorem scan_run (isRun : IsRun run) (ends : ∀ c ∈ rest.head?, isTokenChar c = false) :
    scan (run ++ rest) = run :: scan rest := by
  rw [scan_run_append isRun, if_neg]
  cases rest with
  | nil => simp
  | cons c rest => simp [ends c rfl]

/-! ### What is found -/

theorem Finds.scan_eq {text : List Char} (finds : Finds text found) : scan text = found := by
  induction finds with
  | nil => rfl
  | run isRun ends _ ih => rw [scan_run isRun ends, ih]
  | mark isPoint _ ih => rw [scan_point isPoint, ih]
  | other noRun noMark _ ih => rw [scan_other noRun noMark, ih]

/-- A run that begins goes on as long as it can. -/
theorem exists_run (first : isTokenChar c = true) (rest : List Char) :
    ∃ run others, c :: rest = run ++ others ∧ IsRun run ∧
      (∀ d ∈ others.head?, isTokenChar d = false) ∧ others.length ≤ rest.length := by
  refine ⟨c :: rest.takeWhile isTokenChar, rest.dropWhile isTokenChar, ?_, ?_, ?_, ?_⟩
  · rw [List.cons_append, List.takeWhile_append_dropWhile]
  · refine ⟨List.cons_ne_nil _ _, List.forall_mem_cons.mpr ⟨first, ?_⟩⟩
    exact fun d mem => List.mem_takeWhile_imp mem
  · intro d mem
    have stops := List.head?_dropWhile_not isTokenChar rest
    rw [Option.mem_def.mp mem] at stops
    simpa using stops
  · exact List.length_dropWhile_le isTokenChar rest

theorem finds_scan : ∀ text : List Char, Finds text (scan text)
  | [] => .nil
  | c :: rest => by
    by_cases first : isTokenChar c = true
    · obtain ⟨run, others, whole, isRun, ends, shorter⟩ := exists_run first rest
      rw [whole, scan_run isRun ends]
      exact .run isRun ends (finds_scan others)
    · have noRun : isTokenChar c = false := Bool.eq_false_iff.mpr first
      by_cases isPoint : isPoint c = true
      · rw [scan_point isPoint]
        exact .mark isPoint (finds_scan rest)
      · have noMark : Sentence.isPoint c = false := Bool.eq_false_iff.mpr isPoint
        rw [scan_other noRun noMark]
        exact .other noRun noMark (finds_scan rest)
termination_by text => text.length

/-- Scanning finds what is found from left to right, and nothing else is. -/
theorem finds_iff {text : List Char} : Finds text found ↔ found = scan text := by
  constructor
  · intro finds
    exact finds.scan_eq.symm
  · rintro rfl
    exact finds_scan text

theorem Finds.isRun_or_isMark {text : List Char} (finds : Finds text found) :
    ∀ token ∈ found, IsRun token ∨ IsMark token := by
  induction finds with
  | nil => simp
  | run isRun _ _ ih => exact List.forall_mem_cons.mpr ⟨.inl isRun, ih⟩
  | mark isPoint _ ih => exact List.forall_mem_cons.mpr ⟨.inr ⟨_, isPoint, rfl⟩, ih⟩
  | other _ _ _ ih => exact ih

/-- Every token is a run or a punctuation mark. -/
theorem isRun_or_isMark {text : List Char} (mem : token ∈ scan text) : IsRun token ∨ IsMark token :=
  (finds_scan text).isRun_or_isMark token mem

theorem Finds.subset {text : List Char} (finds : Finds text found) :
    ∀ token ∈ found, token ⊆ text := by
  induction finds with
  | nil => simp
  | run _ _ _ ih =>
    refine List.forall_mem_cons.mpr ⟨List.subset_append_left _ _, ?_⟩
    exact fun token mem => List.Subset.trans (ih token mem) (List.subset_append_right _ _)
  | mark _ _ ih =>
    refine List.forall_mem_cons.mpr ⟨by simp, ?_⟩
    exact fun token mem => List.Subset.trans (ih token mem) (List.subset_cons_self _ _)
  | other _ _ _ ih =>
    exact fun token mem => List.Subset.trans (ih token mem) (List.subset_cons_self _ _)

/-- The characters of a token stand in the text. -/
theorem subset_of_mem_scan {text : List Char} (mem : token ∈ scan text) : token ⊆ text :=
  (finds_scan text).subset token mem

end Sentence
end ReversibleGrammar
