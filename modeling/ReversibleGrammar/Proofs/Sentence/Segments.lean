/-
# The segments of a sentence

A sentence is packed into markers and text spans. A segmentation of its tokens loses none, keeps
their order, makes a marker of a token only if it is one, and hides none in a text span; and its
spans are as long as they can be, for none is empty and no two stand side by side. There is just
one, and packing computes it.

Key definitions: `Sentence.Segments`.
Key theorems: `Sentence.segments_iff`, `Sentence.words_are_the_segments`.
-/
import Mathlib.Data.List.Chain
import ReversibleGrammar.Proofs.Sentence.Tokens

namespace ReversibleGrammar
namespace Sentence

variable {markers : NameSet} {token : String} {span rest ts : List String} {ws : List Word}

/-- The words are the markers and the longest text spans of some tokens. -/
structure Segments (markers : NameSet) (ts : List String) (ws : List Word) : Prop where
  whole : ws.flatMap Word.tokens = ts
  marked : ∀ token, .marker token ∈ ws → token ∈ markers
  unmarked : ∀ span, .text span ∈ ws → ∀ token ∈ span, token ∉ markers
  filled : .text [] ∉ ws
  apart : ws.IsChain fun a b => ¬ (a.isText = true ∧ b.isText = true)

/-! ### Segments word by word -/

theorem segments_nil_iff : Segments markers ts [] ↔ ts = [] := by
  constructor
  · intro segments
    exact segments.whole.symm
  · rintro rfl
    exact ⟨rfl, by simp, by simp, by simp, .nil⟩

/-- A marker is one of the tokens, and the other words are segments of those after it. -/
theorem segments_marker_iff : Segments markers ts (.marker token :: ws) ↔
    ∃ rest, ts = token :: rest ∧ token ∈ markers ∧ Segments markers rest ws := by
  constructor
  · intro segments
    refine ⟨ws.flatMap Word.tokens, segments.whole.symm, segments.marked token List.mem_cons_self, ?_⟩
    exact ⟨rfl, fun t mem => segments.marked t (List.mem_cons_of_mem _ mem),
      fun s mem => segments.unmarked s (List.mem_cons_of_mem _ mem),
      fun mem => segments.filled (List.mem_cons_of_mem _ mem), segments.apart.tail⟩
  · rintro ⟨rest, rfl, isMarker, segments⟩
    refine ⟨?_, ?_, ?_, ?_, ?_⟩
    · show token :: ws.flatMap Word.tokens = token :: rest
      rw [segments.whole]
    · simpa using ⟨isMarker, segments.marked⟩
    · simpa using segments.unmarked
    · simpa using segments.filled
    · exact List.isChain_cons.mpr ⟨by simp [Word.isText], segments.apart⟩

/-- A text span takes some tokens that are no markers, and no text span comes after it. -/
theorem segments_text_iff : Segments markers ts (.text span :: ws) ↔
    span ≠ [] ∧ (∀ token ∈ span, token ∉ markers) ∧ (∀ w ∈ ws.head?, w.isText = false) ∧
      ∃ rest, ts = span ++ rest ∧ Segments markers rest ws := by
  constructor
  · intro segments
    have filled : span ≠ [] := by
      rintro rfl
      exact segments.filled List.mem_cons_self
    have next : ∀ w ∈ ws.head?, w.isText = false := by
      intro w mem
      have apart := (List.isChain_cons.mp segments.apart).1 w mem
      simpa [Word.isText] using apart
    refine ⟨filled, segments.unmarked span List.mem_cons_self, next, ?_⟩
    refine ⟨ws.flatMap Word.tokens, segments.whole.symm, ?_⟩
    exact ⟨rfl, fun t mem => segments.marked t (List.mem_cons_of_mem _ mem),
      fun s mem => segments.unmarked s (List.mem_cons_of_mem _ mem),
      fun mem => segments.filled (List.mem_cons_of_mem _ mem), segments.apart.tail⟩
  · rintro ⟨filled, unmarked, next, rest, rfl, segments⟩
    refine ⟨?_, ?_, ?_, ?_, ?_⟩
    · show span ++ ws.flatMap Word.tokens = span ++ rest
      rw [segments.whole]
    · simpa using segments.marked
    · simpa using ⟨unmarked, segments.unmarked⟩
    · simpa using ⟨filled, segments.filled⟩
    · refine List.isChain_cons.mpr ⟨fun w mem => ?_, segments.apart⟩
      simp [next w mem]

/-! ### Packing -/

theorem pack_of_mem (isMarker : token ∈ markers) :
    pack markers (token :: rest) = .marker token :: pack markers rest := by
  rw [pack, if_pos isMarker]

theorem pack_of_not_mem (noMarker : token ∉ markers) :
    pack markers (token :: rest) = packText token (pack markers rest) := by
  rw [pack, if_neg noMarker]

theorem packText_of_noText (next : ∀ w ∈ ws.head?, w.isText = false) :
    packText token ws = .text [token] :: ws := by
  unfold packText
  split
  · simp [Word.isText] at next
  · rfl

/-- Tokens that are no markers are packed into one span, if no other begins after them. -/
theorem pack_append (filled : span ≠ []) (unmarked : ∀ token ∈ span, token ∉ markers)
    (next : ∀ w ∈ (pack markers rest).head?, w.isText = false) :
    pack markers (span ++ rest) = .text span :: pack markers rest := by
  induction span with
  | nil => exact absurd rfl filled
  | cons token span ih =>
    obtain ⟨first, others⟩ := List.forall_mem_cons.mp unmarked
    rw [List.cons_append, pack_of_not_mem first]
    by_cases single : span = []
    · rw [single, List.nil_append, packText_of_noText next]
    · rw [ih single others]
      rfl

/-- Packing makes segments of any tokens. -/
theorem segments_pack : ∀ ts : List String, Segments markers ts (pack markers ts)
  | [] => segments_nil_iff.mpr rfl
  | token :: rest => by
    have others : Segments markers rest (pack markers rest) := segments_pack rest
    by_cases isMarker : token ∈ markers
    · rw [pack_of_mem isMarker]
      exact segments_marker_iff.mpr ⟨rest, rfl, isMarker, others⟩
    · rw [pack_of_not_mem isMarker]
      -- The token joins a span that begins right after it, and begins a span otherwise.
      cases packed : pack markers rest with
      | nil =>
        rw [packed] at others
        exact segments_text_iff.mpr ⟨by simp, by simpa using isMarker, by simp, rest, rfl, others⟩
      | cons w ws =>
        rw [packed] at others
        cases w with
        | marker other =>
          refine segments_text_iff.mpr ⟨by simp, by simpa using isMarker, ?_, rest, rfl, others⟩
          simp [Word.isText]
        | text span =>
          obtain ⟨-, unmarked, next, after, rfl, segments⟩ := segments_text_iff.mp others
          refine segments_text_iff.mpr ⟨by simp, ?_, next, after, rfl, segments⟩
          exact List.forall_mem_cons.mpr ⟨isMarker, unmarked⟩

/-- Segments of the same tokens are the same. -/
theorem Segments.eq_pack : ∀ {ws : List Word} {ts : List String}, Segments markers ts ws →
    ws = pack markers ts
  | [], ts, segments => by
    rw [segments_nil_iff.mp segments]
    rfl
  | .marker token :: ws, ts, segments => by
    obtain ⟨rest, rfl, isMarker, others⟩ := segments_marker_iff.mp segments
    rw [pack_of_mem isMarker, ← others.eq_pack]
  | .text span :: ws, ts, segments => by
    obtain ⟨filled, unmarked, next, rest, rfl, others⟩ := segments_text_iff.mp segments
    have same : ws = pack markers rest := others.eq_pack
    rw [pack_append filled unmarked (same ▸ next), ← same]

theorem segments_iff : Segments markers ts ws ↔ ws = pack markers ts := by
  constructor
  · intro segments
    exact segments.eq_pack
  · rintro rfl
    exact segments_pack ts

/-! ### The words of a sentence -/

/-- No token of a sentence is lost or altered. -/
theorem flatMap_words (markers : NameSet) (sentence : String) :
    (words markers sentence).flatMap Word.tokens = tokens sentence :=
  (segments_pack (tokens sentence)).whole

/-- **The words of a sentence are the segments of its tokens.** The tokens are those, and only
those, that are found from left to right. The words are all of them in their order, each marker
and nothing else as a marker and the others in spans, none of which is empty or next to another;
and no other words are so. -/
theorem words_are_the_segments (markers : NameSet) (sentence : String) :
    (∀ found, Finds sentence.toList found ↔ found.map String.ofList = tokens sentence) ∧
      ∀ ws, Segments markers (tokens sentence) ws ↔ ws = words markers sentence := by
  constructor
  · intro found
    have inverse : Function.Injective String.ofList := fun _ _ => String.ofList_injective
    rw [finds_iff, tokens, inverse.list_map.eq_iff]
  · intro ws
    exact segments_iff

example : words (.ofList ["because", "."]) "It is, because it's red." =
    [.text ["It", "is", ","], .marker "because", .text ["it's", "red"], .marker "."] := by
  decide

end Sentence
end ReversibleGrammar
