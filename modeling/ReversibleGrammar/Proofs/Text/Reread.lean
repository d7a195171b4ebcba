/-
# Escapes that are read back

Inside double quotes most characters are written as they are, and a quote and a backslash
with a backslash in front. All others get an escape that starts with a backslash. Who
reads a backslash as standing for the character after it gets back a plain string, one of
characters of the first two kinds, and of an escape what follows its backslash. What was
read back once is plain, so it is read back unchanged ever after.

Key definitions: `Text.rereadChar`, `Text.reread`, `Text.Plain`.
Key theorems: `Text.escape_cases`, `Text.reread_eq_self_iff`, `Text.plain_reread`.
-/
import ReversibleGrammar.Text.Quoted

namespace ReversibleGrammar
namespace Text

variable {c : Char}

/-- The way a character is written, without the backslash in front. -/
def rereadChar (c : Char) : List Char :=
  match escape c with
  | '\\' :: run => run
  | run => run

/-- What a string in double quotes reads as, where a backslash stands for the character
after it. -/
def reread (s : String) : String :=
  String.ofList (s.toList.flatMap rereadChar)

/-- All characters are written as they are, the quote and the backslash apart. -/
def Plain (s : String) : Prop :=
  ∀ c ∈ s.toList, c = '"' ∨ c = '\\' ∨ escape c = [c]

instance (s : String) : Decidable (Plain s) :=
  List.decidableBAll (fun c => c = '"' ∨ c = '\\' ∨ escape c = [c]) s.toList

/-! ### Characters -/

theorem exists_digitChar_of_mem_toDigits {d : Char} (n : Nat) (mem : d ∈ Nat.toDigits 16 n) :
    ∃ k < 16, d = Nat.digitChar k := by
  induction n using Nat.strongRecOn with
  | _ n ih =>
    by_cases small : n < 16
    · rw [Nat.toDigits_of_lt_base small, List.mem_singleton] at mem
      exact ⟨n, small, mem⟩
    · rw [Nat.toDigits_of_base_le (by decide) (by omega), List.mem_append, List.mem_singleton] at mem
      rcases mem with front | last
      · exact ih (n / 16) (by omega) front
      · exact ⟨n % 16, by omega, last⟩

/-- A digit of a code point is written as it is. -/
theorem escape_of_mem_toDigits {d : Char} {n : Nat} (mem : d ∈ Nat.toDigits 16 n) : escape d = [d] := by
  have all : ∀ k < 16, escape (Nat.digitChar k) = [Nat.digitChar k] := by decide
  obtain ⟨k, small, rfl⟩ := exists_digitChar_of_mem_toDigits n mem
  exact all k small

/-- The three ways in which a character is written: as it is, with a backslash in front, or
as an escape that has only characters of the first kind behind the backslash. -/
theorem escape_cases (c : Char) : escape c = [c] ∨
    (c = '"' ∨ c = '\\') ∧ escape c = ['\\', c] ∨
    ∃ run, escape c = '\\' :: run ∧ run ≠ [] ∧ run ≠ [c] ∧ ∀ d ∈ run, escape d = [d] := by
  by_cases isQuote : c = '"'
  · subst isQuote
    exact .inr (.inl ⟨.inl rfl, rfl⟩)
  by_cases isBackslash : c = '\\'
  · subst isBackslash
    exact .inr (.inl ⟨.inr rfl, rfl⟩)
  have ofLetter : ∀ d, escape c = ['\\', d] → d ≠ c → escape d = [d] → ∃ run,
      escape c = '\\' :: run ∧ run ≠ [] ∧ run ≠ [c] ∧ ∀ d ∈ run, escape d = [d] := by
    intro d written other bare
    refine ⟨[d], written, List.cons_ne_nil d [], ?_, List.forall_mem_singleton.mpr bare⟩
    exact fun same => other (List.singleton_inj.mp same)
  -- The four control characters with letters of their own.
  by_cases isNewline : c = '\n'
  · subst isNewline
    exact .inr (.inr (ofLetter 'n' rfl (by decide) (by decide)))
  by_cases isReturn : c = '\r'
  · subst isReturn
    exact .inr (.inr (ofLetter 'r' rfl (by decide) (by decide)))
  by_cases isTab : c = '\t'
  · subst isTab
    exact .inr (.inr (ofLetter 't' rfl (by decide) (by decide)))
  by_cases isNul : c = '\x00'
  · subst isNul
    exact .inr (.inr (ofLetter '0' rfl (by decide) (by decide)))
  have rest : escape c = if isVisible c then [c] else codeEscape c := by
    rw [escape, if_neg isQuote, if_neg isBackslash, if_neg isNewline, if_neg isReturn, if_neg isTab,
      if_neg isNul]
  by_cases visible : isVisible c
  · exact .inl (by rw [rest, if_pos visible])
  · refine .inr (.inr ⟨'u' :: '\x7b' :: (Nat.toDigits 16 c.toNat ++ ['\x7d']), ?_, ?_, ?_, ?_⟩)
    · rw [rest, if_neg visible]
      rfl
    · exact List.cons_ne_nil _ _
    · intro same
      cases same
    · rw [List.forall_mem_cons, List.forall_mem_cons, List.forall_mem_append, List.forall_mem_singleton]
      exact ⟨by decide, by decide, fun d mem => escape_of_mem_toDigits mem, by decide⟩

theorem ne_of_escape_eq_self (bare : escape c = [c]) : c ≠ '"' ∧ c ≠ '\\' := by
  constructor
  · rintro rfl
    cases bare
  · rintro rfl
    cases bare

/-! ### Reading characters back -/

theorem rereadChar_of_escape_eq_self (bare : escape c = [c]) : rereadChar c = [c] := by
  have noBackslash : c ≠ '\\' := (ne_of_escape_eq_self bare).2
  unfold rereadChar
  rw [bare]
  split
  · rename_i same
    cases same
    exact absurd rfl noBackslash
  · rfl

theorem rereadChar_of_escape_eq_cons {run : List Char} (written : escape c = '\\' :: run) :
    rereadChar c = run := by
  unfold rereadChar
  rw [written]
  rfl

theorem rereadChar_of_plain (plain : c = '"' ∨ c = '\\' ∨ escape c = [c]) : rereadChar c = [c] := by
  rcases plain with rfl | rfl | bare
  · rfl
  · rfl
  · exact rereadChar_of_escape_eq_self bare

theorem rereadChar_ne_nil (c : Char) : rereadChar c ≠ [] := by
  rcases escape_cases c with bare | ⟨-, written⟩ | ⟨run, written, some, -⟩
  · rw [rereadChar_of_escape_eq_self bare]
    exact List.cons_ne_nil c []
  · rw [rereadChar_of_escape_eq_cons written]
    exact List.cons_ne_nil c []
  · rw [rereadChar_of_escape_eq_cons written]
    exact some

/-- Only plain characters are read back as themselves. -/
theorem rereadChar_eq_self_iff : rereadChar c = [c] ↔ c = '"' ∨ c = '\\' ∨ escape c = [c] := by
  refine ⟨?_, rereadChar_of_plain⟩
  intro same
  rcases escape_cases c with bare | ⟨isQuote | isBackslash, -⟩ | ⟨run, written, -, other, -⟩
  · exact .inr (.inr bare)
  · exact .inl isQuote
  · exact .inr (.inl isBackslash)
  · rw [rereadChar_of_escape_eq_cons written] at same
    exact absurd same other

/-- What a character is read back as is plain. -/
theorem plain_of_mem_rereadChar {d : Char} (mem : d ∈ rereadChar c) :
    d = '"' ∨ d = '\\' ∨ escape d = [d] := by
  rcases escape_cases c with bare | ⟨isQuote | isBackslash, written⟩ | ⟨run, written, -, -, all⟩
  · rw [rereadChar_of_escape_eq_self bare, List.mem_singleton] at mem
    exact .inr (.inr (mem ▸ bare))
  · rw [rereadChar_of_escape_eq_cons written, List.mem_singleton] at mem
    exact .inl (mem.trans isQuote)
  · rw [rereadChar_of_escape_eq_cons written, List.mem_singleton] at mem
    exact .inr (.inl (mem.trans isBackslash))
  · rw [rereadChar_of_escape_eq_cons written] at mem
    exact .inr (.inr (all d mem))

/-! ### Reading strings back -/

theorem length_le_flatMap_rereadChar : ∀ l : List Char, l.length ≤ (l.flatMap rereadChar).length
  | [] => Nat.le_refl 0
  | c :: l => by
    have others := length_le_flatMap_rereadChar l
    have first := List.length_pos_iff.mpr (rereadChar_ne_nil c)
    rw [List.flatMap_cons, List.length_append, List.length_cons]
    omega

theorem flatMap_rereadChar_eq_self_iff : ∀ {l : List Char},
    l.flatMap rereadChar = l ↔ ∀ c ∈ l, rereadChar c = [c]
  | [] => by simp
  | c :: l => by
    rw [List.flatMap_cons, List.forall_mem_cons, ← flatMap_rereadChar_eq_self_iff]
    constructor
    · intro same
      obtain ⟨d, tail, split⟩ := List.exists_cons_of_ne_nil (rereadChar_ne_nil c)
      rw [split, List.cons_append, List.cons.injEq] at same
      obtain ⟨rfl, same⟩ := same
      -- No character is read back as nothing, so the others leave no place for a tail.
      have total : tail.length + (l.flatMap rereadChar).length = l.length := by
        rw [← List.length_append, same]
      have others := length_le_flatMap_rereadChar l
      obtain rfl : tail = [] := List.eq_nil_of_length_eq_zero (by omega)
      exact ⟨split, same⟩
    · rintro ⟨first, others⟩
      rw [first, others]
      rfl

/-- Only plain strings are read back as themselves. -/
theorem reread_eq_self_iff {s : String} : reread s = s ↔ Plain s := by
  have same : reread s = s ↔ s.toList.flatMap rereadChar = s.toList := by
    rw [← String.toList_inj, reread, String.toList_ofList]
  rw [same, flatMap_rereadChar_eq_self_iff]
  simp only [rereadChar_eq_self_iff]
  rfl

/-- What was read back once is read back as itself. -/
theorem plain_reread (s : String) : Plain (reread s) := by
  intro d mem
  rw [reread, String.toList_ofList] at mem
  obtain ⟨c, -, there⟩ := List.mem_flatMap.mp mem
  exact plain_of_mem_rereadChar there

end Text
end ReversibleGrammar
