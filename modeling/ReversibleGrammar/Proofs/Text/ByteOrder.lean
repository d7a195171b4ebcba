/-
# The order of strings is that of their bytes

Strings are compared character by character, by code. The encoding of a character is
made so that the same order results when the bytes are compared one by one: a
character with a lower code has at the first byte that differs the lower one, and that
byte is there in both, whatever follows. So the least name of a field map is also the
one whose bytes come first.

Key definitions: `Text.bytes`.
Key theorems: `Text.encoding_append_lt`, `Text.bytes_lt_iff`.
-/
import Mathlib.Data.String.Basic

namespace ReversibleGrammar
namespace Text

/-- The bytes of a string. -/
def bytes (s : String) : List UInt8 :=
  s.toUTF8.data.toList

theorem bytes_eq (s : String) : bytes s = s.toList.flatMap String.utf8EncodeChar := by
  have encoded : s.toUTF8 = (s.toList.flatMap String.utf8EncodeChar).toByteArray := by
    show s.toByteArray = s.toList.utf8Encode
    rw [← String.toByteArray_ofList, String.ofList_toList]
  rw [bytes, encoded, List.data_toByteArray]

/-- Of two codes the lower one has the lower leading digits, or the same and a lower last one. -/
theorem digits_lt {v w : Nat} (below : v < w) :
    v / 64 < w / 64 ∨ v / 64 = w / 64 ∧ v % 64 < w % 64 := by
  omega

/-- The encoding of a lower character comes first, whatever follows the two. -/
theorem encoding_append_lt {c d : Char} (below : c < d) (s t : List UInt8) :
    String.utf8EncodeChar c ++ s < String.utf8EncodeChar d ++ t := by
  have lower : c.val.toNat < d.val.toNat := below
  have bound : d.val.toNat < 0x110000 := by
    have := d.valid
    simp only [UInt32.isValidChar, Nat.isValidChar] at this
    omega
  unfold String.utf8EncodeChar
  dsimp only
  generalize c.val.toNat = v at lower
  generalize d.val.toNat = w at lower bound
  -- The digits of the codes to base 64, of which each byte after the first holds one.
  have third (n : Nat) : n / 4096 = n / 64 / 64 := (Nat.div_div_eq_div_mul n 64 64).symm
  have fourth (n : Nat) : n / 262144 = n / 64 / 64 / 64 := by
    rw [← third, Nat.div_div_eq_div_mul]
  have differ := digits_lt lower
  rw [third v, third w, fourth v, fourth w]
  split_ifs <;>
    simp only [List.cons_append, List.nil_append, List.cons_lt_cons_iff, UInt8.lt_iff_toNat_lt,
      ← UInt8.toNat_inj] <;>
    simp (disch := omega) only [UInt8.toNat_ofNat', Nat.mod_eq_of_lt] <;>
    omega

theorem bytes_lt_of_lt {s t : String} (below : s < t) : bytes s < bytes t := by
  rw [bytes_eq, bytes_eq]
  have below : List.Lex (· < ·) s.toList t.toList := String.lt_iff_toList_lt.mp below
  generalize s.toList = cs at below
  generalize t.toList = ds at below
  induction below with
  | @nil d ds =>
    obtain ⟨byte, rest, split⟩ := List.exists_cons_of_ne_nil (String.utf8EncodeChar_ne_nil (c := d))
    rw [List.flatMap_nil, List.flatMap_cons, split, List.cons_append]
    exact List.Lex.nil
  | rel below => exact encoding_append_lt below _ _
  | cons _ ih => exact List.append_left_lt ih

/-- **Strings are ordered as their bytes are.** -/
theorem bytes_lt_iff {s t : String} : bytes s < bytes t ↔ s < t := by
  constructor
  · intro first
    rcases lt_trichotomy s t with below | same | above
    · exact below
    · rw [same] at first
      exact absurd first (List.lt_irrefl _)
    · exact absurd first (List.lt_asymm (bytes_lt_of_lt above))
  · exact bytes_lt_of_lt

end Text
end ReversibleGrammar
