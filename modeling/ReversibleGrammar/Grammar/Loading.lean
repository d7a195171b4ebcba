/-
# Loading grammars

A grammar is loaded from a text in its notation, or from a file that holds one
in UTF-8. It is complete when it defines every symbol that it refers to; only a
complete grammar can be parsed with.

Key definitions: `Grammar.ofText`, `Grammar.ofFile`, `Grammar.validate`.
Key theorems: `Grammar.textOf?_eq_some_iff`.
-/
import ReversibleGrammar.LoadError
import ReversibleGrammar.Notation.Reader

namespace ReversibleGrammar
namespace Grammar

/-- The grammar that a text writes. -/
def ofText (text : String) : Except LoadError Grammar :=
  (Notation.readGrammar text).mapError fun problem =>
    .badNotation (problem.line text.toList) problem

/-- The text that bytes hold in UTF-8. -/
def textOf? (bytes : List UInt8) : Option String :=
  String.fromUTF8? ⟨bytes.toArray⟩

/-- Bytes hold a text if they are those of its characters. -/
theorem textOf?_eq_some_iff {bytes : List UInt8} {text : String} :
    textOf? bytes = some text ↔ bytes = text.toList.flatMap String.utf8EncodeChar := by
  have packed (bytes : List UInt8) : (⟨bytes.toArray⟩ : ByteArray) = bytes.toByteArray :=
    ByteArray.ext List.data_toByteArray.symm
  have encoded : text.toByteArray = ⟨(text.toList.flatMap String.utf8EncodeChar).toArray⟩ := by
    rw [packed]
    exact String.utf8Encode_toList.symm
  rw [textOf?, String.fromUTF8?]
  constructor
  · intro h
    split at h
    · cases h
      exact List.toArray_inj (ByteArray.ext_iff.mp encoded)
    · cases h
  · rintro rfl
    rw [← encoded, dif_pos text.isValidUTF8]
    rfl

theorem textOf?_nil : textOf? [] = some "" :=
  textOf?_eq_some_iff.mpr (by rw [String.toList_empty, List.flatMap_nil])

/-- The grammar that a file holds, where `read` gives the bytes of files. -/
def ofFile (read : String → Except ReadFailure (List UInt8)) (path : String) :
    Except LoadError Grammar :=
  match read path with
  | .error failure => .error (.unreadable path failure)
  | .ok bytes =>
    match textOf? bytes with
    | none => .error (.unreadable path .invalidText)
    | some text => ofText text

/-- Whether every symbol that is referred to is defined. -/
def Complete (g : Grammar) : Prop :=
  g.missing = .empty

instance (g : Grammar) : Decidable g.Complete :=
  inferInstanceAs (Decidable (g.missing = .empty))

/-- Refuses a grammar that is not complete. -/
def validate (g : Grammar) : Except LoadError Unit :=
  if g.Complete then .ok () else .error (.incomplete g.missing)

end Grammar
end ReversibleGrammar
