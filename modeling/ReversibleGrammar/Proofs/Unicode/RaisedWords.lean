/-
# Word characters in upper case

The upper case of a word character is made of word characters. Two letters are exceptions: their
upper case was added in Unicode 17.0, and what words consist of is told by 16.0.

The tables are checked range by range: the upper case of a whole run of characters lies in one
range of word characters, or the run has no word character. Only the characters of two runs have
to be looked at one by one.

Key definitions: `Ranges.covers`, `CaseRun.keepsWords`, `unmatchedLetters`.
Key theorems: `Ranges.holds_iff`, `upperCase_cases`, `upperCase_isWord_iff`.
-/
import Mathlib.Data.List.Chain
import ReversibleGrammar.Unicode.Uppercase
import ReversibleGrammar.Unicode.WordCharacter

namespace ReversibleGrammar
namespace Unicode

variable {ranges : Ranges} {first last n m : Nat} {run : CaseRun} {c d : Char}

/-! ### Ranges -/

/-- Whether all code points between two, these included, lie in one of the ranges. -/
def Ranges.covers (ranges : Ranges) (first last : Nat) : Bool :=
  ranges.any fun range => Nat.ble range.1 first && Nat.ble last range.2

/-- Whether no code point between two, these included, lies in one of the ranges. -/
def Ranges.avoids (ranges : Ranges) (first last : Nat) : Bool :=
  ranges.all fun range => Nat.blt range.2 first || Nat.blt last range.1

/-- Whether each range begins at or after the one before it. -/
def Ranges.ascends : Ranges → Bool
  | a :: b :: rest => Nat.ble a.1 b.1 && Ranges.ascends (b :: rest)
  | _ => true

/-- In ascending ranges the look-up misses no range. -/
theorem Ranges.holds_of_mem : ∀ {ranges : Ranges}, ranges.ascends = true →
    ∀ range ∈ ranges, range.1 ≤ n → n ≤ range.2 → ranges.holds n = true
  | [], _, _, mem, _, _ => by cases mem
  | a :: rest, ascends, range, mem, above, below => by
    -- The later ranges begin no earlier than the first one.
    have starts : ∀ {ranges : Ranges} {a : Nat × Nat}, Ranges.ascends (a :: ranges) = true →
        ∀ b ∈ ranges, a.1 ≤ b.1 := by
      intro ranges
      induction ranges with
      | nil => simp
      | cons b ranges ih =>
        intro a ascends
        rw [Ranges.ascends, Bool.and_eq_true, Nat.ble_eq] at ascends
        refine List.forall_mem_cons.mpr ⟨ascends.1, fun c mem => ?_⟩
        exact Nat.le_trans ascends.1 (ih ascends.2 c mem)
    have later : Ranges.ascends rest = true := by
      cases rest with
      | nil => rfl
      | cons b rest =>
        rw [Ranges.ascends, Bool.and_eq_true] at ascends
        exact ascends.2
    rw [Ranges.holds]
    rcases List.mem_cons.mp mem with rfl | mem
    · rw [if_neg (by omega), if_pos below]
    · have : a.1 ≤ range.1 := starts ascends range mem
      rw [if_neg (by omega)]
      split
      · rfl
      · exact holds_of_mem later range mem above below

theorem Ranges.holds_iff (ascends : ranges.ascends = true) :
    ranges.holds n = true ↔ ranges.covers n n = true := by
  constructor
  · intro holds
    obtain ⟨range, mem, above, below⟩ := exists_of_holds holds
    exact List.any_eq_true.mpr ⟨range, mem, by simp [above, below]⟩
  · intro covers
    obtain ⟨range, mem, inside⟩ := List.any_eq_true.mp covers
    rw [Bool.and_eq_true, Nat.ble_eq, Nat.ble_eq] at inside
    exact holds_of_mem ascends range mem inside.1 inside.2

theorem Ranges.covers_of_between (covers : ranges.covers first last = true) (above : first ≤ n)
    (below : n ≤ last) : ranges.covers n n = true := by
  obtain ⟨range, mem, inside⟩ := List.any_eq_true.mp covers
  rw [Bool.and_eq_true, Nat.ble_eq, Nat.ble_eq] at inside
  have bounds : range.1 ≤ n ∧ n ≤ range.2 := by omega
  exact List.any_eq_true.mpr ⟨range, mem, by simp [bounds]⟩

theorem Ranges.not_covers_of_avoids (avoids : ranges.avoids first last = true) (above : first ≤ n)
    (below : n ≤ last) : ¬ ranges.covers n n = true := by
  intro covers
  obtain ⟨range, mem, inside⟩ := List.any_eq_true.mp covers
  have apart := List.all_eq_true.mp avoids range mem
  simp only [Bool.or_eq_true, Bool.and_eq_true, Nat.ble_eq, Nat.blt_eq] at inside apart
  omega

/-! ### The table of word characters -/

theorem ascends_wordCharacters : wordCharacters.ascends = true := by
  decide +kernel

/-- Every code point in the ranges is that of a character. -/
theorem valid_wordCharacters : (wordCharacters.all fun range =>
    Nat.blt range.2 0xD800 || (Nat.blt 0xDFFF range.1 && Nat.blt range.2 0x110000)) = true := by
  decide +kernel

theorem isWordCharacter_iff :
    isWordCharacter c = true ↔ wordCharacters.covers c.toNat c.toNat = true :=
  Ranges.holds_iff ascends_wordCharacters

theorem isWordCharacter_ofNat (covers : wordCharacters.covers n n = true) :
    isWordCharacter (Char.ofNat n) = true := by
  obtain ⟨range, mem, inside⟩ := List.any_eq_true.mp covers
  have valid := List.all_eq_true.mp valid_wordCharacters range mem
  simp only [Bool.or_eq_true, Bool.and_eq_true, Nat.ble_eq, Nat.blt_eq] at inside valid
  have isChar : n.isValidChar := by
    show n < 0xD800 ∨ 0xDFFF < n ∧ n < 0x110000
    omega
  have same : (Char.ofNat n).toNat = n := by
    rw [Char.ofNat, dif_pos isChar]
    rfl
  rw [isWordCharacter_iff, same]
  exact covers

/-! ### The tables of upper case -/

/-- The upper case of a character stands in the one table or the other, or is the character. -/
theorem upperCase_cases (c : Char) :
    (∃ image, (c.toNat, image) ∈ caseExpansions ∧ upperCase c = image.map Char.ofNat) ∨
      (∃ run ∈ caseRuns, ∃ m, run.upper? c.toNat = some m ∧ upperCase c = [Char.ofNat m]) ∨
      upperCase c = [c] := by
  unfold upperCase
  split
  · rename_i image expansion
    obtain ⟨before, after, whole, -⟩ := List.lookup_eq_some_iff.mp expansion
    have listed : (c.toNat, image) ∈ caseExpansions := by
      rw [whole]
      exact List.mem_append_right before List.mem_cons_self
    exact .inl ⟨image, listed, rfl⟩
  · split
    · rename_i m single
      obtain ⟨run, inRuns, upper⟩ := List.exists_of_findSome?_eq_some single
      exact .inr (.inl ⟨run, inRuns, m, upper, rfl⟩)
    · exact .inr (.inr rfl)

/-- The word characters whose upper case is no word character. -/
def unmatchedLetters : List Char :=
  ['\ua7d3', '\ua7d5']

/-- Whether the upper case of the word characters in a run is made of word characters, those two
apart. -/
def CaseRun.keepsWords (run : CaseRun) : Bool :=
  wordCharacters.covers run.image (run.image + (run.last - run.first)) ||
    wordCharacters.avoids run.first run.last ||
    (List.range (run.last - run.first + 1)).all fun k =>
      Nat.blt 0 (k % run.step) || !wordCharacters.covers (run.first + k) (run.first + k) ||
        Nat.beq (run.first + k) 0xA7D3 || Nat.beq (run.first + k) 0xA7D5 ||
        wordCharacters.covers (run.image + k) (run.image + k)

theorem keepsWords_caseRuns : caseRuns.all CaseRun.keepsWords = true := by
  decide +kernel

theorem words_caseExpansions : (caseExpansions.all fun expansion =>
    expansion.2.all fun n => wordCharacters.covers n n) = true := by
  decide +kernel

theorem CaseRun.covers_of_upper? (keeps : run.keepsWords = true) (upper : run.upper? n = some m)
    (isWord : wordCharacters.covers n n = true) (other : n ≠ 0xA7D3 ∧ n ≠ 0xA7D5) :
    wordCharacters.covers m m = true := by
  unfold upper? at upper
  split at upper
  · rename_i inRun
    obtain rfl : run.image + (n - run.first) = m := Option.some.inj upper
    have distance : run.first + (n - run.first) = n := by omega
    unfold keepsWords at keeps
    rw [Bool.or_eq_true, Bool.or_eq_true] at keeps
    rcases keeps with (whole | none) | each
    · exact Ranges.covers_of_between whole (by omega) (by omega)
    · exact absurd isWord (Ranges.not_covers_of_avoids none inRun.1 inRun.2.1)
    · have here := List.all_eq_true.mp each (n - run.first) (List.mem_range.mpr (by omega))
      rw [distance] at here
      simpa [inRun.2.2, isWord, other.1, other.2] using here
  · cases upper

theorem isWord_of_mem_upperCase (isWord : isWordCharacter c = true) (other : c ∉ unmatchedLetters)
    (mem : d ∈ upperCase c) : isWordCharacter d = true := by
  have covers : wordCharacters.covers c.toNat c.toNat = true := isWordCharacter_iff.mp isWord
  rcases upperCase_cases c with ⟨image, listed, upper⟩ | ⟨run, inRuns, m, image, upper⟩ | upper
  · rw [upper] at mem
    obtain ⟨n, inImage, rfl⟩ := List.mem_map.mp mem
    have each := List.all_eq_true.mp words_caseExpansions _ listed
    exact isWordCharacter_ofNat (List.all_eq_true.mp each n inImage)
  · rw [upper] at mem
    obtain rfl := List.mem_singleton.mp mem
    have keeps := List.all_eq_true.mp keepsWords_caseRuns run inRuns
    have differs : ∀ e ∈ unmatchedLetters, c.toNat ≠ e.toNat := by
      intro e listed same
      rw [Char.toNat_inj.mp same] at other
      exact other listed
    have notListed : c.toNat ≠ 0xA7D3 ∧ c.toNat ≠ 0xA7D5 :=
      ⟨differs '\ua7d3' (by decide), differs '\ua7d5' (by decide)⟩
    exact isWordCharacter_ofNat (CaseRun.covers_of_upper? keeps image covers notListed)
  · rw [upper, List.mem_singleton] at mem
    rw [mem]
    exact isWord

/-- The upper case of a word character is made of word characters, with two exceptions. -/
theorem upperCase_isWord_iff (isWord : isWordCharacter c = true) :
    (∀ d ∈ upperCase c, isWordCharacter d = true) ↔ c ∉ unmatchedLetters := by
  constructor
  · intro words listed
    have unmatched : (unmatchedLetters.all fun e => !(upperCase e).all isWordCharacter) = true := by
      decide +kernel
    have here := List.all_eq_true.mp unmatched c listed
    rw [List.all_eq_true.mpr words] at here
    cases here
  · intro other d mem
    exact isWord_of_mem_upperCase isWord other mem

end Unicode
end ReversibleGrammar
