/-
# Splitting a joined sentence

Joining the words of a sentence and splitting the result gives the tokens of the sentence again,
with a capital where one belongs, as long as no token runs into the one before it. No space is put
before a single character that is not alphabetic. That is right for punctuation marks; but a digit,
an apostrophe, a slash or any other such character of a run is taken for one of them as well, and
behind a run it becomes a part of it. Nothing else changes: the tokens of a joined sentence are
those of the sentence, raised and fused.

Key definitions: `Sentence.raised`, `Sentence.fuses`, `Sentence.fused`.
Key theorems: `Sentence.scan_joinTokens`, `Sentence.fuse_eq_self_iff`, `Sentence.isChain_raise_iff`,
`Sentence.joined_tokens_survive_unless_fused`, `Sentence.lone_digit_is_lost`.
-/
import ReversibleGrammar.Proofs.Sentence.Segments
import ReversibleGrammar.Proofs.Unicode.RaisedWords

namespace ReversibleGrammar
namespace Sentence

variable {c : Char} {a b token : List Char} {ts : List (List Char)}

/-! ### Capitals -/

/-- Gives a capital to each token after a full stop, of which the first is one or not. -/
def raise : Bool → List (List Char) → List (List Char)
  | _, [] => []
  | afterStop, token :: rest =>
    (if afterStop then capitalize token else token) :: raise (token == ['.']) rest

/-- The tokens with a capital at the start and after each full stop. -/
def raised (tokens : List String) : List String :=
  (raise true (tokens.map String.toList)).map String.ofList

/-- Whether the upper case of the word characters of a text is made of word characters. -/
def RaisesWords (text : List Char) : Prop :=
  ∀ c ∈ text, Unicode.isWordCharacter c = true →
    ∀ d ∈ Unicode.upperCase c, Unicode.isWordCharacter d = true

theorem RaisesWords.subset {text part : List Char} (raises : RaisesWords text) (sub : part ⊆ text) :
    RaisesWords part :=
  fun c mem => raises c (sub mem)

/-- Only two letters have to be absent. -/
theorem raisesWords_of_matched {text : List Char}
    (matched : text.any Unicode.unmatchedLetters.contains = false) : RaisesWords text := by
  intro c mem isWord
  rw [Unicode.upperCase_isWord_iff isWord, ← List.contains_iff_mem]
  exact List.any_eq_false.mp matched c mem

theorem upperCase_ne_nil (c : Char) : Unicode.upperCase c ≠ [] := by
  have each : ∀ expansion ∈ Unicode.caseExpansions, expansion.2 ≠ [] := by decide
  rcases Unicode.upperCase_cases c with ⟨image, listed, upper⟩ | ⟨run, inRuns, m, -, upper⟩ | upper
  · rw [upper]
    exact fun empty => each _ listed (List.map_eq_nil_iff.mp empty)
  · simp [upper]
  · simp [upper]

/-- A character of a run is raised to characters of a run. -/
theorem isTokenChar_of_mem_upperCase (raises : RaisesWords [c]) (inRun : isTokenChar c = true)
    {d : Char} (mem : d ∈ Unicode.upperCase c) : isTokenChar d = true := by
  unfold isTokenChar at inRun
  rw [Bool.or_eq_true, Bool.or_eq_true, beq_iff_eq, beq_iff_eq] at inRun
  rcases inRun with (isWord | rfl) | rfl
  · have isWord : Unicode.isWordCharacter d = true := raises c List.mem_cons_self isWord d mem
    simp [isTokenChar, isWord]
  · have same : Unicode.upperCase '\'' = ['\''] := by decide +kernel
    rw [same, List.mem_singleton] at mem
    rw [mem]
    decide
  · have same : Unicode.upperCase '/' = ['/'] := by decide +kernel
    rw [same, List.mem_singleton] at mem
    rw [mem]
    decide

theorem IsRun.capitalize (isRun : IsRun token) (raises : RaisesWords token) :
    IsRun (capitalize token) := by
  cases token with
  | nil => exact absurd rfl isRun.1
  | cons c rest =>
    have first : IsRun (Unicode.upperCase c) := by
      refine ⟨upperCase_ne_nil c, fun d mem => ?_⟩
      have raises : RaisesWords [c] := raises.subset (by simp)
      exact isTokenChar_of_mem_upperCase raises (isRun.2 c List.mem_cons_self) mem
    exact first.append fun d mem => isRun.2 d (List.mem_cons_of_mem c mem)

/-- A punctuation mark has no other upper case. -/
theorem IsMark.capitalize (isMark : IsMark token) : Sentence.capitalize token = token := by
  have own : (['.', ',', '!', '?', ';'].all fun c => Unicode.upperCase c == [c]) = true := by
    decide +kernel
  obtain ⟨c, isPoint, rfl⟩ := isMark
  have listed : c ∈ ['.', ',', '!', '?', ';'] := by
    simpa [Sentence.isPoint, or_assoc] using isPoint
  show Unicode.upperCase c ++ [] = [c]
  rw [beq_iff_eq.mp (List.all_eq_true.mp own c listed), List.append_nil]

/-- A token with or without its capital: a run remains one. -/
theorem IsRun.front (isRun : IsRun token) (raises : RaisesWords token) (afterStop : Bool) :
    IsRun (if afterStop then Sentence.capitalize token else token) := by
  split
  · exact isRun.capitalize raises
  · exact isRun

/-- A token with or without its capital: a punctuation mark is the same. -/
theorem IsMark.front (isMark : IsMark token) (afterStop : Bool) :
    (if afterStop then Sentence.capitalize token else token) = token := by
  rw [isMark.capitalize, ite_self]

/-! ### Tokens that are fused -/

/-- Whether a token runs into the one before it: that is a run, and this one is a single character
of a run that is not alphabetic. -/
def fuses (a b : List Char) : Bool :=
  a.all isTokenChar && (isSign b && b.all isTokenChar)

/-- Makes one token of any two of which one runs into the other. -/
def fuse : List (List Char) → List (List Char)
  | [] => []
  | token :: rest =>
    if rest.head?.any (fuses token) then attach token (fuse rest) else token :: fuse rest

/-- The tokens of which those are one that run into one another. -/
def fused (tokens : List String) : List String :=
  (fuse (tokens.map String.toList)).map String.ofList

theorem fuses_of_isMark (isMark : IsMark a) (b : List Char) : fuses a b = false := by
  obtain ⟨c, isPoint, rfl⟩ := isMark
  simp [fuses, isTokenChar_of_isPoint isPoint]

theorem fuses_of_isRun (isRun : IsRun a) (b : List Char) :
    fuses a b = (isSign b && b.all isTokenChar) := by
  rw [fuses, List.all_eq_true.mpr isRun.2, Bool.true_and]

theorem IsRun.ne_stop (isRun : IsRun token) : (token == ['.']) = false := by
  rw [beq_eq_false_iff_ne]
  rintro rfl
  exact not_isRun_mark (by decide) isRun

/-! ### Joining and splitting -/

theorem joinTokens_cons (filled : token ≠ []) (atStart afterStop : Bool) :
    joinTokens atStart afterStop (token :: ts) =
      (if atStart || isSign token then [] else [' ']) ++
        ((if afterStop then capitalize token else token) ++
          joinTokens false (token == ['.']) ts) := by
  rw [joinTokens, List.append_assoc]
  exact filled

theorem scan_space (text : List Char) : scan (' ' :: text) = scan text :=
  scan_other (by decide) (by decide)

/-- What is joined behind a run goes on with a character of a run just if the first token runs
into it. -/
theorem head?_joinTokens (filled : ∀ token ∈ ts, token ≠ []) :
    (joinTokens false false ts).head?.any isTokenChar =
      ts.head?.any fun token => isSign token && token.all isTokenChar := by
  cases ts with
  | nil => rfl
  | cons token ts =>
    rw [joinTokens_cons (filled token List.mem_cons_self)]
    by_cases sign : isSign token = true
    · obtain ⟨c, rfl⟩ : ∃ c, token = [c] := by
        unfold isSign at sign
        split at sign
        · exact ⟨_, rfl⟩
        · cases sign
      simp [sign]
    · have space : isTokenChar ' ' = false := by decide
      simp [sign, space]

/-- The tokens of what was joined are the tokens, raised and fused. -/
theorem scan_joinTokens (areTokens : ∀ token ∈ ts, IsRun token ∨ IsMark token)
    (raises : ∀ token ∈ ts, RaisesWords token) (atStart afterStop : Bool) :
    scan (joinTokens atStart afterStop ts) = fuse (raise afterStop ts) := by
  induction ts generalizing atStart afterStop with
  | nil => rfl
  | cons token ts ih =>
    obtain ⟨isToken, areTokens⟩ := List.forall_mem_cons.mp areTokens
    obtain ⟨raises, others⟩ := List.forall_mem_cons.mp raises
    have filled : ∀ token, IsRun token ∨ IsMark token → token ≠ [] := by
      rintro token (isRun | ⟨c, -, rfl⟩)
      · exact isRun.1
      · simp
    have dropped (text : List Char) :
        scan ((if atStart || isSign token then [] else [' ']) ++ text) = scan text := by
      split
      · rfl
      · exact scan_space text
    rw [joinTokens_cons (filled token isToken), dropped, raise]
    rcases isToken with isRun | isMark
    · have isFront := isRun.front raises afterStop
      generalize (if afterStop then capitalize token else token) = front at isFront
      have goesOn : (joinTokens false false ts).head?.any isTokenChar =
          (raise false ts).head?.any (fuses front) := by
        rw [head?_joinTokens fun token mem => filled token (areTokens token mem)]
        cases ts with
        | nil => rfl
        | cons other ts => exact (fuses_of_isRun isFront other).symm
      rw [isRun.ne_stop, scan_run_append isFront, goesOn, ih areTokens others, fuse]
    · -- Nothing runs into a punctuation mark.
      have apart : (raise (token == ['.']) ts).head?.any (fuses token) = false := by
        simp [fuses_of_isMark isMark, Option.any_eq_false]
      rw [isMark.front, fuse, apart, ← ih areTokens others false]
      obtain ⟨c, isPoint, rfl⟩ := isMark
      exact scan_point isPoint

/-! ### Where nothing is fused -/

/-- Where a token runs into the one before it, there is a token. -/
theorem ne_nil_of_runsIn (runsIn : ts.head?.any (fuses token) = true) : ts ≠ [] := by
  rintro rfl
  cases runsIn

theorem fuse_ne_nil (filled : ts ≠ []) : fuse ts ≠ [] := by
  cases ts with
  | nil => exact absurd rfl filled
  | cons token ts =>
    rw [fuse]
    split
    · cases fuse ts <;> simp [attach]
    · simp

theorem length_attach (token : List Char) (filled : ts ≠ []) : (attach token ts).length = ts.length := by
  cases ts with
  | nil => exact absurd rfl filled
  | cons => rfl

theorem length_fuse_le : ∀ ts : List (List Char), (fuse ts).length ≤ ts.length
  | [] => Nat.le_refl 0
  | token :: ts => by
    have shorter : (fuse ts).length ≤ ts.length := length_fuse_le ts
    rw [fuse, List.length_cons]
    split
    · rename_i runsIn
      rw [length_attach token (fuse_ne_nil (ne_nil_of_runsIn runsIn))]
      omega
    · rw [List.length_cons]
      omega

/-- Fusing changes nothing exactly where no token runs into the one before it. -/
theorem fuse_eq_self_iff : ∀ {ts : List (List Char)},
    fuse ts = ts ↔ ts.IsChain fun a b => fuses a b = false
  | [] => by simp [fuse]
  | token :: ts => by
    have noneRuns : (∀ other ∈ ts.head?, fuses token other = false) ↔
        ts.head?.any (fuses token) = false := by
      cases ts <;> simp
    rw [fuse, List.isChain_cons, ← fuse_eq_self_iff, noneRuns]
    by_cases runsIn : ts.head?.any (fuses token) = true
    · -- Then there are fewer tokens.
      have shorter : (attach token (fuse ts)).length < (token :: ts).length := by
        rw [length_attach token (fuse_ne_nil (ne_nil_of_runsIn runsIn))]
        exact Nat.lt_succ_of_le (length_fuse_le ts)
      have differs : attach token (fuse ts) ≠ token :: ts := by
        intro same
        rw [same] at shorter
        exact absurd shorter (Nat.lt_irrefl _)
      simp [runsIn, differs]
    · simp [runsIn]

/-- Capitals do not change which tokens run into one another. -/
theorem isChain_raise_iff : ∀ {ts : List (List Char)},
    (∀ token ∈ ts, IsRun token ∨ IsMark token) → (∀ token ∈ ts, RaisesWords token) →
    ∀ afterStop, (raise afterStop ts).IsChain (fun a b => fuses a b = false) ↔
      ts.IsChain fun a b => fuses a b = false
  | [], _, _, _ => Iff.rfl
  | token :: ts, areTokens, raises, afterStop => by
    obtain ⟨isToken, areTokens⟩ := List.forall_mem_cons.mp areTokens
    obtain ⟨raises, others⟩ := List.forall_mem_cons.mp raises
    rw [raise, List.isChain_cons, List.isChain_cons, isChain_raise_iff areTokens others]
    apply and_congr_left'
    rcases isToken with isRun | isMark
    · have isFront := isRun.front raises afterStop
      have sameHead : (raise false ts).head? = ts.head? := by
        cases ts <;> rfl
      rw [isRun.ne_stop, sameHead]
      simp only [fuses_of_isRun isFront, fuses_of_isRun isRun]
    · rw [isMark.front]
      simp [fuses_of_isMark isMark]

/-! ### The words of a sentence -/

/-- **Splitting and joining again.** Where the upper case of word characters is made of word
characters, the tokens of a sentence that was split and joined are its tokens, the first and each
after a full stop with a capital, but a single character that is not alphabetic, a digit say, is
fused with the run before it. They are the tokens with their capitals exactly if there is none. -/
theorem joined_tokens_survive_unless_fused (markers : NameSet) (sentence : String)
    (raises : RaisesWords sentence.toList) :
    tokens (join (words markers sentence)) = fused (raised (tokens sentence)) ∧
      (tokens (join (words markers sentence)) = raised (tokens sentence) ↔
        (tokens sentence).IsChain fun a b => fuses a.toList b.toList = false) := by
  have areTokens : ∀ token ∈ scan sentence.toList, IsRun token ∨ IsMark token :=
    fun token mem => isRun_or_isMark mem
  have each : ∀ token ∈ scan sentence.toList, RaisesWords token :=
    fun token mem => raises.subset (subset_of_mem_scan mem)
  have back (ts : List (List Char)) : (ts.map String.ofList).map String.toList = ts := by
    simp
  have raisedTokens : raised (tokens sentence) = (raise true (scan sentence.toList)).map String.ofList := by
    rw [raised, tokens, back]
  have joined : tokens (join (words markers sentence)) =
      (fuse (raise true (scan sentence.toList))).map String.ofList :=
    calc tokens (join (words markers sentence))
      _ = (scan (joinTokens true true (scan sentence.toList))).map String.ofList := by
        rw [join, flatMap_words, tokens, String.toList_ofList, tokens, back]
      _ = (fuse (raise true (scan sentence.toList))).map String.ofList := by
        rw [scan_joinTokens areTokens each]
  have inverse : Function.Injective String.ofList := fun _ _ => String.ofList_injective
  constructor
  · rw [joined, raisedTokens, fused, back]
  · rw [joined, raisedTokens, inverse.list_map.eq_iff, fuse_eq_self_iff,
      isChain_raise_iff areTokens each, tokens, List.isChain_map]
    simp

/-- The digit between the words is fused with the first of them, the one after the full stop is not. -/
theorem digit_is_fused_behind_word :
    let sentence := "it's 5 o'clock. 7/8 of _ sleep, 2 too"
    tokens (join (words .empty sentence)) =
        ["It's5", "o'clock", ".", "7/8", "of_", "sleep", ",", "2", "too"] ∧
      tokens (join (words .empty sentence)) ≠ raised (tokens sentence) := by
  intro sentence
  have raises : RaisesWords sentence.toList := raisesWords_of_matched (by decide)
  obtain ⟨joined, survive⟩ := joined_tokens_survive_unless_fused .empty sentence raises
  have result : fused (raised (tokens sentence)) =
      ["It's5", "o'clock", ".", "7/8", "of_", "sleep", ",", "2", "too"] := by decide
  refine ⟨joined.trans result, ?_⟩
  rw [Ne, survive]
  decide

/-- So tokens do not always survive: a digit behind a word is lost. -/
theorem lone_digit_is_lost : ¬ ∀ (markers : NameSet) (sentence : String),
    RaisesWords sentence.toList →
      tokens (join (words markers sentence)) = raised (tokens sentence) := by
  intro survive
  have raises : RaisesWords "a 5".toList := raisesWords_of_matched (by decide)
  have same := survive .empty "a 5" raises
  have joined : tokens (join (words .empty "a 5")) = ["A5"] := by decide
  have wanted : raised (tokens "a 5") = ["A", "5"] := by decide
  rw [joined, wanted] at same
  exact absurd same (by decide)

end Sentence
end ReversibleGrammar
