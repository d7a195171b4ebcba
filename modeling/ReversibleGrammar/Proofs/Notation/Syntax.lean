/-
# The syntax of expressions

What the text of an expression looks like, said by rules and not by the reader: a slot, a
string, `empty`, `null`, a tag with fields in braces, or items in brackets. The lexemes
are what their readers take. The reader of expressions takes just what the rules
describe. So what holds of all that is read is shown rule by rule, and a text is read
when the rules describe it.

Key definitions: `Notation.SpellsExpression`, `Notation.SpellsFields`,
`Notation.SpellsItems`.
Key theorems: `Notation.readExpression_takes_iff`, `Notation.SpellsExpression.suffix`,
`Notation.SpellsExpression.of_skipBlank_eq`.
-/
import ReversibleGrammar.Notation.Reader
import ReversibleGrammar.Proofs.Notation.Lexemes

namespace ReversibleGrammar
namespace Notation

/-- The character that ends the items of a list. -/
def Closing.mark : Closing → Char
  | semicolon => ';'
  | bracket => ']'

mutual

/-- The text spells an expression, and the rest follows. -/
inductive SpellsExpression : List Char → Expression → List Char → Prop
  | slot {s rest : List Char} {template : Template} (slot : (readSlot s).Takes template rest) :
    SpellsExpression s (.computed template) rest
  | string {s rest : List Char} {text : String} (string : (readString s).Takes text rest) :
    SpellsExpression s (.fixed (.str text)) rest
  | empty {s rest : List Char} (name : (readName s).Takes "empty" rest) :
    SpellsExpression s (.computed .empty) rest
  | null {s rest : List Char} (name : (readName s).Takes "null" rest) :
    SpellsExpression s (.fixed .null) rest
  | record {s after inside rest : List Char} {tag : String} {template : Template}
    (name : (readName s).Takes tag after) (notEmpty : tag ≠ "empty") (notNull : tag ≠ "null")
    (brace : skipBlank after = '\x7b' :: inside) (fields : SpellsFields tag [] inside template rest) :
    SpellsExpression s (.computed template) rest
  | list {s inside rest : List Char} {items : List Expression} {e : Expression}
    (bracket : skipBlank s = '[' :: inside) (all : SpellsItems inside items .bracket rest)
    (made : Expression.ofItems? items = some e) : SpellsExpression s e rest
  | tailed {s inside after rest : List Char} {heads tails : List Expression} {e : Expression}
    (bracket : skipBlank s = '[' :: inside) (first : SpellsItems inside heads .semicolon after)
    (second : SpellsItems after tails .bracket rest)
    (made : Expression.ofHeadsAndTails? heads tails = some e) : SpellsExpression s e rest

/-- The text spells what follows some fields of a record template up to its end, and the
rest follows. -/
inductive SpellsFields : String → List Field → List Char → Template → List Char → Prop
  | closed {tag : String} {fields : List Field} {s rest : List Char}
    (brace : skipBlank s = '\x7d' :: rest) : SpellsFields tag fields s (.record tag fields) rest
  | last {tag name : String} {fields : List Field} {s afterName afterColon after rest : List Char}
    {e : Expression} (isName : (readName s).Takes name afterName)
    (colon : skipBlank afterName = ':' :: afterColon)
    (fresh : (fields.any fun field => field.name == name) = false)
    (value : SpellsExpression afterColon e after) (brace : skipBlank after = '\x7d' :: rest) :
    SpellsFields tag fields s (.record tag (fields ++ [e.toField name])) rest
  | more {tag name : String} {fields : List Field} {template : Template}
    {s afterName afterColon after next rest : List Char} {e : Expression}
    (isName : (readName s).Takes name afterName) (colon : skipBlank afterName = ':' :: afterColon)
    (fresh : (fields.any fun field => field.name == name) = false)
    (value : SpellsExpression afterColon e after) (comma : skipBlank after = ',' :: next)
    (others : SpellsFields tag (fields ++ [e.toField name]) next template rest) :
    SpellsFields tag fields s template rest

/-- The text spells items up to the mark that ends them, and the rest follows. -/
inductive SpellsItems : List Char → List Expression → Closing → List Char → Prop
  | closed {s rest : List Char} {closing : Closing} (mark : skipBlank s = closing.mark :: rest) :
    SpellsItems s [] closing rest
  | last {s after rest : List Char} {e : Expression} {closing : Closing}
    (item : SpellsExpression s e after) (mark : skipBlank after = closing.mark :: rest) :
    SpellsItems s [e] closing rest
  | more {s after next rest : List Char} {e : Expression} {items : List Expression}
    {closing : Closing} (item : SpellsExpression s e after) (comma : skipBlank after = ',' :: next)
    (others : SpellsItems next items closing rest) : SpellsItems s (e :: items) closing rest

end

/-! ### What is read is spelled -/

mutual

theorem SpellsExpression.of_takes {s rest : List Char} {e : Expression}
    (h : (readExpression s).Takes e rest) : SpellsExpression s e rest := by
  unfold readExpression at h
  split at h
  · obtain ⟨template, slot, rfl⟩ := Reading.map_takes_iff.mp h
    exact .slot slot
  · obtain ⟨text, string, rfl⟩ := Reading.map_takes_iff.mp h
    exact .string string
  · rename_i inside seen
    have shorter : inside.length < s.length := length_le_of_skipBlank seen
    dsimp only at h
    split at h
    · exact absurd h Reading.not_takes_error
    · rename_i items after le read
      split at h
      · rename_i made
        obtain ⟨rfl, rfl⟩ := Reading.takes_ok_iff.mp h
        exact .list seen (SpellsItems.of_takes ⟨le, read⟩) made
      · exact absurd h Reading.not_takes_error
    · rename_i heads after le read
      split at h
      · exact absurd h Reading.not_takes_error
      · exact absurd h Reading.not_takes_error
      · rename_i tails final le' read'
        split at h
        · rename_i made
          obtain ⟨rfl, rfl⟩ := Reading.takes_ok_iff.mp h
          exact .tailed seen (SpellsItems.of_takes ⟨le, read⟩) (SpellsItems.of_takes ⟨le', read'⟩) made
        · exact absurd h Reading.not_takes_error
  · split at h
    · exact absurd h Reading.not_takes_error
    · rename_i name after le read
      have isName : (readName s).Takes name after := ⟨le, read⟩
      split at h
      · rename_i isEmpty
        obtain ⟨rfl, rfl⟩ := Reading.takes_ok_iff.mp h
        exact .empty (isEmpty ▸ isName)
      · rename_i notEmpty
        split at h
        · rename_i isNull
          obtain ⟨rfl, rfl⟩ := Reading.takes_ok_iff.mp h
          exact .null (isNull ▸ isName)
        · rename_i notNull
          split at h
          · exact absurd h Reading.not_takes_error
          · rename_i inside le' mark
            have brace := readMark_takes_iff.mp ⟨le', mark⟩
            split at h
            · exact absurd h Reading.not_takes_error
            · rename_i t fields
              obtain ⟨rfl, rfl⟩ := Reading.takes_ok_iff.mp h
              exact .record isName notEmpty notNull brace (SpellsFields.of_takes ⟨t.shorter, fields⟩)
termination_by (s.length, 0)

theorem SpellsFields.of_takes {tag : String} {fields : List Field} {s rest : List Char}
    {template : Template} (h : (readFields tag fields s).Takes template rest) :
    SpellsFields tag fields s template rest := by
  unfold readFields at h
  split at h
  · rename_i seen
    obtain ⟨rfl, rfl⟩ := Reading.takes_ok_iff.mp h
    exact .closed seen
  · split at h
    · exact absurd h Reading.not_takes_error
    · rename_i name afterName le read
      split at h
      · exact absurd h Reading.not_takes_error
      · rename_i afterColon le' mark
        have colon := readMark_takes_iff.mp ⟨le', mark⟩
        split at h
        · exact absurd h Reading.not_takes_error
        · rename_i fresh
          split at h
          · exact absurd h Reading.not_takes_error
          · rename_i e after le'' value
            have spelled : SpellsExpression afterColon e after := .of_takes ⟨le'', value⟩
            dsimp only at h
            split at h
            · rename_i next comma
              have shorter : next.length < after.length := length_le_of_skipBlank comma
              split at h
              · exact absurd h Reading.not_takes_error
              · rename_i t others
                obtain ⟨rfl, rfl⟩ := Reading.takes_ok_iff.mp h
                exact .more ⟨le, read⟩ colon (by simpa using fresh) spelled comma
                  (SpellsFields.of_takes ⟨t.shorter, others⟩)
            · rename_i brace
              obtain ⟨rfl, rfl⟩ := Reading.takes_ok_iff.mp h
              exact .last ⟨le, read⟩ colon (by simpa using fresh) spelled brace
            · exact absurd h Reading.not_takes_error
termination_by (s.length, 0)

theorem SpellsItems.of_takes {s rest : List Char} {items : List Expression} {closing : Closing}
    (h : (readItems s).Takes (items, closing) rest) : SpellsItems s items closing rest := by
  unfold readItems at h
  split at h
  · rename_i seen
    obtain ⟨same, rfl⟩ := Reading.takes_ok_iff.mp h
    cases same
    exact .closed seen
  · rename_i seen
    obtain ⟨same, rfl⟩ := Reading.takes_ok_iff.mp h
    cases same
    exact .closed seen
  · split at h
    · exact absurd h Reading.not_takes_error
    · rename_i e after le read
      have spelled : SpellsExpression s e after := .of_takes ⟨le, read⟩
      dsimp only at h
      split at h
      · rename_i next comma
        have shorter : next.length < after.length := length_le_of_skipBlank comma
        split at h
        · exact absurd h Reading.not_takes_error
        · rename_i le' others
          obtain ⟨same, rfl⟩ := Reading.takes_ok_iff.mp h
          cases same
          exact .more spelled comma (SpellsItems.of_takes ⟨le', others⟩)
      · rename_i mark
        obtain ⟨same, rfl⟩ := Reading.takes_ok_iff.mp h
        cases same
        exact .last spelled mark
      · rename_i mark
        obtain ⟨same, rfl⟩ := Reading.takes_ok_iff.mp h
        cases same
        exact .last spelled mark
      · exact absurd h Reading.not_takes_error
-- Items start with an expression that is read off the same text.
termination_by (s.length, 1)

end

theorem readExpression_of_slot {s rest : List Char} {template : Template}
    (slot : (readSlot s).Takes template rest) :
    (readExpression s).Takes (.computed template) rest := by
  obtain ⟨tail, seen, -⟩ := readSlot_takes_iff.mp slot
  unfold readExpression
  split
  · exact Reading.map_takes_iff.mpr ⟨template, slot, rfl⟩
  · rename_i seen'
    cases seen.symm.trans seen'
  · rename_i seen'
    cases seen.symm.trans seen'
  · rename_i noSlot _ _
    exact absurd seen (noSlot tail)

theorem readExpression_of_string {s rest : List Char} {text : String}
    (string : (readString s).Takes text rest) :
    (readExpression s).Takes (.fixed (.str text)) rest := by
  obtain ⟨tail, seen, -⟩ := readString_takes_iff.mp string
  unfold readExpression
  split
  · rename_i seen'
    cases seen.symm.trans seen'
  · exact Reading.map_takes_iff.mpr ⟨text, string, rfl⟩
  · rename_i seen'
    cases seen.symm.trans seen'
  · rename_i noString _
    exact absurd seen (noString tail)

/-- What a name starts: one of two constants, or a record template. -/
theorem readExpression_of_name {s after rest : List Char} {name : String} {e : Expression}
    (isName : (readName s).Takes name after)
    (goesOn : name = "empty" ∧ e = .computed .empty ∧ after = rest ∨
      name = "null" ∧ e = .fixed .null ∧ after = rest ∨
      name ≠ "empty" ∧ name ≠ "null" ∧ ∃ inside template, skipBlank after = '\x7b' :: inside ∧
        (readFields name [] inside).Takes template rest ∧ e = .computed template) :
    (readExpression s).Takes e rest := by
  unfold readExpression
  split
  · rename_i seen
    exact absurd isName (not_takes_name seen (by decide))
  · rename_i seen
    exact absurd isName (not_takes_name seen (by decide))
  · rename_i seen
    exact absurd isName (not_takes_name seen (by decide))
  · obtain ⟨shorter, read⟩ := isName
    rw [read]
    dsimp only
    rcases goesOn with ⟨rfl, rfl, rfl⟩ | ⟨rfl, rfl, rfl⟩ | ⟨notEmpty, notNull, inside, template, brace, fields, rfl⟩
    · exact ⟨shorter, rfl⟩
    · exact ⟨shorter, rfl⟩
    · obtain ⟨shorter', mark⟩ := readMark_takes_iff.mpr brace
      obtain ⟨shorter'', read'⟩ := fields
      rw [if_neg notEmpty, if_neg notNull, mark]
      dsimp only
      rw [read']
      exact ⟨_, rfl⟩

theorem readExpression_of_list {s inside rest : List Char} {items : List Expression} {e : Expression}
    (bracket : skipBlank s = '[' :: inside) (all : (readItems inside).Takes (items, .bracket) rest)
    (made : Expression.ofItems? items = some e) : (readExpression s).Takes e rest := by
  obtain ⟨shorter, read⟩ := all
  unfold readExpression
  split
  · rename_i seen
    cases bracket.symm.trans seen
  · rename_i seen
    cases bracket.symm.trans seen
  · rename_i inside' seen
    cases bracket.symm.trans seen
    rw [read]
    dsimp only
    rw [made]
    exact ⟨_, rfl⟩
  · rename_i noList
    exact absurd bracket (noList inside)

theorem readExpression_of_tailed {s inside after rest : List Char} {heads tails : List Expression}
    {e : Expression} (bracket : skipBlank s = '[' :: inside)
    (first : (readItems inside).Takes (heads, .semicolon) after)
    (second : (readItems after).Takes (tails, .bracket) rest)
    (made : Expression.ofHeadsAndTails? heads tails = some e) : (readExpression s).Takes e rest := by
  obtain ⟨shorter, read⟩ := first
  obtain ⟨shorter', read'⟩ := second
  unfold readExpression
  split
  · rename_i seen
    cases bracket.symm.trans seen
  · rename_i seen
    cases bracket.symm.trans seen
  · rename_i inside' seen
    cases bracket.symm.trans seen
    rw [read]
    dsimp only
    rw [read']
    dsimp only
    rw [made]
    exact ⟨_, rfl⟩
  · rename_i noList
    exact absurd bracket (noList inside)

theorem readFields_of_brace {s rest : List Char} (brace : skipBlank s = '\x7d' :: rest) (tag : String)
    (fields : List Field) : (readFields tag fields s).Takes (.record tag fields) rest := by
  unfold readFields
  split
  · rename_i seen
    cases brace.symm.trans seen
    exact ⟨_, rfl⟩
  · rename_i noBrace
    exact absurd brace (noBrace rest)

theorem readFields_of_name {s afterName afterColon after rest : List Char} {tag name : String}
    {fields : List Field} {e : Expression} {template : Template}
    (isName : (readName s).Takes name afterName) (colon : skipBlank afterName = ':' :: afterColon)
    (fresh : (fields.any fun field => field.name == name) = false)
    (value : (readExpression afterColon).Takes e after)
    (goesOn : skipBlank after = '\x7d' :: rest ∧ template = .record tag (fields ++ [e.toField name]) ∨
      ∃ next, skipBlank after = ',' :: next ∧
        (readFields tag (fields ++ [e.toField name]) next).Takes template rest) :
    (readFields tag fields s).Takes template rest := by
  unfold readFields
  split
  · rename_i seen
    exact absurd isName (not_takes_name seen (by decide))
  · obtain ⟨shorter, read⟩ := isName
    obtain ⟨shorter', mark⟩ := readMark_takes_iff.mpr colon
    obtain ⟨shorter'', read'⟩ := value
    rw [read]
    dsimp only
    rw [mark]
    dsimp only
    rw [if_neg (by rw [fresh]; exact Bool.false_ne_true), read']
    dsimp only
    split
    · rename_i next comma
      rcases goesOn with ⟨brace, -⟩ | ⟨next', comma', others⟩
      · cases brace.symm.trans comma
      · cases comma.symm.trans comma'
        obtain ⟨_, read''⟩ := others
        rw [read'']
        exact ⟨_, rfl⟩
    · rename_i brace
      rcases goesOn with ⟨brace', rfl⟩ | ⟨next', comma, -⟩
      · cases brace.symm.trans brace'
        exact ⟨_, rfl⟩
      · cases brace.symm.trans comma
    · rename_i noComma noBrace
      rcases goesOn with ⟨brace, -⟩ | ⟨next', comma, -⟩
      · exact absurd brace (noBrace rest)
      · exact absurd comma (noComma next')

/-- The characters that an expression starts with. -/
def startsExpression (c : Char) : Bool :=
  c == '$' || c == '"' || c == '[' || isNameStart c

theorem SpellsExpression.start {s rest : List Char} {e : Expression} (h : SpellsExpression s e rest) :
    ∃ c tail, skipBlank s = c :: tail ∧ startsExpression c = true := by
  have ofName : ∀ {name : String} {after : List Char}, (readName s).Takes name after →
      ∃ c tail, skipBlank s = c :: tail ∧ startsExpression c = true := by
    intro name after isName
    obtain ⟨c, tail, seen, start⟩ := exists_nameStart_of_takes isName
    exact ⟨c, tail, seen, by rw [startsExpression, start, Bool.or_true]⟩
  cases h with
  | slot slot =>
    obtain ⟨tail, seen, -⟩ := readSlot_takes_iff.mp slot
    exact ⟨_, tail, seen, rfl⟩
  | string string =>
    obtain ⟨tail, seen, -⟩ := readString_takes_iff.mp string
    exact ⟨_, tail, seen, rfl⟩
  | empty name => exact ofName name
  | null name => exact ofName name
  | record name => exact ofName name
  | list bracket => exact ⟨_, _, bracket, rfl⟩
  | tailed bracket => exact ⟨_, _, bracket, rfl⟩

/-- An expression does not start with a mark that ends items. -/
theorem SpellsExpression.not_closing {s rest : List Char} {e : Expression}
    (h : SpellsExpression s e rest) (closing : Closing) (inside : List Char) :
    skipBlank s ≠ closing.mark :: inside := by
  intro mark
  obtain ⟨c, tail, seen, start⟩ := h.start
  have noStart : startsExpression closing.mark = false := by cases closing <;> decide
  cases seen.symm.trans mark
  rw [noStart] at start
  cases start

theorem readItems_of_closing {s rest : List Char} {closing : Closing}
    (mark : skipBlank s = closing.mark :: rest) : (readItems s).Takes ([], closing) rest := by
  unfold readItems
  split
  · rename_i seen
    cases closing <;> cases mark.symm.trans seen
    exact ⟨_, rfl⟩
  · rename_i seen
    cases closing <;> cases mark.symm.trans seen
    exact ⟨_, rfl⟩
  · rename_i noSemicolon noBracket
    cases closing
    · exact absurd mark (noSemicolon rest)
    · exact absurd mark (noBracket rest)

theorem readItems_of_item {s after rest : List Char} {item : Expression} {items : List Expression}
    {closing : Closing} (noClosing : ∀ (closing : Closing) inside, skipBlank s ≠ closing.mark :: inside)
    (isItem : (readExpression s).Takes item after)
    (goesOn : skipBlank after = closing.mark :: rest ∧ items = [] ∨
      ∃ next, skipBlank after = ',' :: next ∧ (readItems next).Takes (items, closing) rest) :
    (readItems s).Takes (item :: items, closing) rest := by
  unfold readItems
  split
  · rename_i seen
    exact absurd seen (noClosing .semicolon _)
  · rename_i seen
    exact absurd seen (noClosing .bracket _)
  · obtain ⟨shorter, read⟩ := isItem
    rw [read]
    dsimp only
    split
    · rename_i next comma
      rcases goesOn with ⟨mark, -⟩ | ⟨next', comma', others⟩
      · cases closing <;> cases mark.symm.trans comma
      · cases comma.symm.trans comma'
        obtain ⟨_, read'⟩ := others
        rw [read']
        exact ⟨_, rfl⟩
    · rename_i mark
      rcases goesOn with ⟨mark', rfl⟩ | ⟨next', comma, -⟩
      · cases closing <;> cases mark.symm.trans mark'
        exact ⟨_, rfl⟩
      · cases mark.symm.trans comma
    · rename_i mark
      rcases goesOn with ⟨mark', rfl⟩ | ⟨next', comma, -⟩
      · cases closing <;> cases mark.symm.trans mark'
        exact ⟨_, rfl⟩
      · cases mark.symm.trans comma
    · rename_i noComma noSemicolon noBracket
      rcases goesOn with ⟨mark, -⟩ | ⟨next', comma, -⟩
      · cases closing
        · exact absurd mark (noSemicolon rest)
        · exact absurd mark (noBracket rest)
      · exact absurd comma (noComma next')

mutual

theorem SpellsExpression.takes : ∀ {s rest : List Char} {e : Expression}, SpellsExpression s e rest →
    (readExpression s).Takes e rest
  | _, _, _, .slot slot => readExpression_of_slot slot
  | _, _, _, .string string => readExpression_of_string string
  | _, _, _, .empty name => readExpression_of_name name (.inl ⟨rfl, rfl, rfl⟩)
  | _, _, _, .null name => readExpression_of_name name (.inr (.inl ⟨rfl, rfl, rfl⟩))
  | _, _, _, .record name notEmpty notNull brace fields =>
    readExpression_of_name name (.inr (.inr ⟨notEmpty, notNull, _, _, brace, fields.takes, rfl⟩))
  | _, _, _, .list bracket all made => readExpression_of_list bracket all.takes made
  | _, _, _, .tailed bracket first second made =>
    readExpression_of_tailed bracket first.takes second.takes made

theorem SpellsFields.takes : ∀ {tag : String} {fields : List Field} {s rest : List Char}
    {template : Template}, SpellsFields tag fields s template rest →
    (readFields tag fields s).Takes template rest
  | tag, fields, _, _, _, .closed brace => readFields_of_brace brace tag fields
  | _, _, _, _, _, .last isName colon fresh value brace =>
    readFields_of_name isName colon fresh value.takes (.inl ⟨brace, rfl⟩)
  | _, _, _, _, _, .more isName colon fresh value comma others =>
    readFields_of_name isName colon fresh value.takes (.inr ⟨_, comma, others.takes⟩)

theorem SpellsItems.takes : ∀ {s rest : List Char} {items : List Expression} {closing : Closing},
    SpellsItems s items closing rest → (readItems s).Takes (items, closing) rest
  | _, _, _, _, .closed mark => readItems_of_closing mark
  | _, _, _, _, .last item mark => readItems_of_item item.not_closing item.takes (.inl ⟨mark, rfl⟩)
  | _, _, _, _, .more item comma others =>
    readItems_of_item item.not_closing item.takes (.inr ⟨_, comma, others.takes⟩)

end

/-- The reader of expressions takes what the rules describe, and nothing else. -/
theorem readExpression_takes_iff {s rest : List Char} {e : Expression} :
    (readExpression s).Takes e rest ↔ SpellsExpression s e rest := by
  constructor
  · exact SpellsExpression.of_takes
  · exact SpellsExpression.takes

/-! ### The rest is an end of the text -/

mutual

theorem SpellsExpression.suffix : ∀ {s rest : List Char} {e : Expression}, SpellsExpression s e rest →
    rest <:+ s
  | s, _, _, .slot slot => (readSlot_inside s).of_takes slot
  | s, _, _, .string string => (readString_inside s).of_takes string
  | s, _, _, .empty name => (readName_inside s).of_takes name
  | s, _, _, .null name => (readName_inside s).of_takes name
  | s, _, _, .record name _ _ brace fields =>
    (fields.suffix.trans (suffix_of_skipBlank brace)).trans ((readName_inside s).of_takes name)
  | _, _, _, .list bracket all _ =>
    ((List.suffix_cons _ _).trans all.mark_suffix).trans (suffix_of_skipBlank bracket)
  | _, _, _, .tailed bracket first second _ => by
    have behind := (List.suffix_cons _ _).trans second.mark_suffix
    have behind' := (List.suffix_cons _ _).trans first.mark_suffix
    exact (behind.trans behind').trans (suffix_of_skipBlank bracket)

theorem SpellsFields.suffix : ∀ {tag : String} {fields : List Field} {s rest : List Char}
    {template : Template}, SpellsFields tag fields s template rest → rest <:+ s
  | _, _, _, _, _, .closed brace => suffix_of_skipBlank brace
  | _, _, s, _, _, .last isName colon _ value brace => by
    have behind := (suffix_of_skipBlank colon).trans ((readName_inside s).of_takes isName)
    exact ((suffix_of_skipBlank brace).trans value.suffix).trans behind
  | _, _, s, _, _, .more isName colon _ value comma others => by
    have behind := (suffix_of_skipBlank colon).trans ((readName_inside s).of_takes isName)
    exact ((others.suffix.trans (suffix_of_skipBlank comma)).trans value.suffix).trans behind

/-- The mark that ends items is in the text as well. -/
theorem SpellsItems.mark_suffix : ∀ {s rest : List Char} {items : List Expression} {closing : Closing},
    SpellsItems s items closing rest → closing.mark :: rest <:+ s
  | s, _, _, _, .closed mark => mark ▸ skipBlank_suffix s
  | _, _, _, _, .last item mark => (mark ▸ skipBlank_suffix _).trans item.suffix
  | _, _, _, _, .more item comma others =>
    (others.mark_suffix.trans (suffix_of_skipBlank comma)).trans item.suffix

end

/-! ### Blanks in front -/

/-- What a text spells is seen where its blanks end. -/
theorem SpellsExpression.of_skipBlank_eq {s s' rest : List Char} {e : Expression}
    (same : skipBlank s' = skipBlank s) (h : SpellsExpression s e rest) : SpellsExpression s' e rest := by
  cases h with
  | slot slot => exact .slot (by rw [readSlot_takes_iff, same, ← readSlot_takes_iff]; exact slot)
  | string string => exact .string (by rw [readString_takes_iff, same, ← readString_takes_iff]; exact string)
  | empty name => exact .empty (readName_takes_of_skipBlank_eq same name)
  | null name => exact .null (readName_takes_of_skipBlank_eq same name)
  | record name notEmpty notNull brace fields =>
    exact .record (readName_takes_of_skipBlank_eq same name) notEmpty notNull brace fields
  | list bracket all made => exact .list (same.trans bracket) all made
  | tailed bracket first second made => exact .tailed (same.trans bracket) first second made

theorem SpellsFields.of_skipBlank_eq {tag : String} {fields : List Field} {s s' rest : List Char}
    {template : Template} (same : skipBlank s' = skipBlank s)
    (h : SpellsFields tag fields s template rest) : SpellsFields tag fields s' template rest := by
  cases h with
  | closed brace => exact .closed (same.trans brace)
  | last isName colon fresh value brace =>
    exact .last (readName_takes_of_skipBlank_eq same isName) colon fresh value brace
  | more isName colon fresh value comma others =>
    exact .more (readName_takes_of_skipBlank_eq same isName) colon fresh value comma others

theorem SpellsItems.of_skipBlank_eq {s s' rest : List Char} {items : List Expression}
    {closing : Closing} (same : skipBlank s' = skipBlank s) (h : SpellsItems s items closing rest) :
    SpellsItems s' items closing rest := by
  cases h with
  | closed mark => exact .closed (same.trans mark)
  | last item mark => exact .last (item.of_skipBlank_eq same) mark
  | more item comma others => exact .more (item.of_skipBlank_eq same) comma others

end Notation
end ReversibleGrammar
