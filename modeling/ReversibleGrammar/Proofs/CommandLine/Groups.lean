/-
# Options commute

The arguments come in groups: an option by itself, an option with its value, or the name of the
file. Reading goes from group to group, and each sets one thing. So of the groups that set the
same thing the last one counts, and those that set different things may trade places. Arguments
that are no such groups, or that name no file or several, are rejected; only help is given
whatever else there is.

Key definitions: `CommandLine.Writes`, `CommandLine.Group`, `CommandLine.arguments`,
`CommandLine.chosen`.
Key theorems: `CommandLine.readLimit?_eq_some_iff`, `CommandLine.readFrom_group`,
`CommandLine.readFrom_arguments`, `CommandLine.foldl_last`, `CommandLine.help_or_groups`,
`CommandLine.options_commute`.
-/
import Mathlib.Data.List.Induction
import Mathlib.Data.Nat.Digits.Defs
import ReversibleGrammar.CommandLine.Options
import ReversibleGrammar.Proofs.Success

namespace ReversibleGrammar
namespace CommandLine

variable {arg number : String} {draft : Draft}

/-! ### Names and numbers -/

/-- The short and the long name of an option. -/
def Flag.names : Flag → List String
  | help => ["-h", "--help"]
  | noParaphrases => ["-n", "--no-reverse"]
  | unique => ["-u", "--unique"]
  | start => ["-s", "--start"]
  | limit => ["-l", "--limit"]

theorem Flag.ofName?_eq_some_iff {flag : Flag} : Flag.ofName? arg = some flag ↔ arg ∈ flag.names := by
  constructor
  · intro isNamed
    unfold ofName? at isNamed
    split_ifs at isNamed with named named named named named
    all_goals
      obtain rfl := Option.some.inj isNamed
      simpa [names] using named
  · intro mem
    cases flag <;> simp only [names, List.mem_cons, List.not_mem_nil, or_false] at mem <;>
      rcases mem with rfl | rfl <;> decide

theorem Flag.ofName?_eq_none_iff : Flag.ofName? arg = none ↔ ∀ flag : Flag, arg ∉ flag.names := by
  simp only [← ofName?_eq_some_iff, Option.eq_none_iff_forall_not_mem, Option.mem_def]

/-- A number of at most 64 bits is written in digits, which a plus may precede. -/
def Writes (number : String) (n : Nat) : Prop :=
  ∃ digits : List Char, (number.toList = digits ∨ number.toList = '+' :: digits) ∧ digits ≠ [] ∧
    (∀ d ∈ digits, d.isDigit = true) ∧
    n = Nat.ofDigits 10 (digits.map fun d => d.toNat - '0'.toNat).reverse ∧ n < UInt64.size

theorem readDigits?_eq_some_iff {digits : List Char} {n : Nat} :
    readDigits? digits = some n ↔ digits ≠ [] ∧ (∀ d ∈ digits, d.isDigit = true) ∧
      n = Nat.ofDigits 10 (digits.map fun d => d.toNat - '0'.toNat).reverse := by
  have value : digits.foldl (fun n d => 10 * n + (d.toNat - '0'.toNat)) 0 =
      Nat.ofDigits 10 (digits.map fun d => d.toNat - '0'.toNat).reverse := by
    rw [Nat.ofDigits_eq_foldr, List.foldr_reverse, List.foldl_map]
    simp [Nat.add_comm]
  rw [readDigits?, ← value]
  by_cases filled : digits = []
  · simp [filled]
  · by_cases digital : digits.all Char.isDigit = true
    · rw [if_neg (by simp [filled, digital])]
      constructor
      · intro isValue
        exact ⟨filled, List.all_eq_true.mp digital, (Option.some.inj isValue).symm⟩
      · rintro ⟨-, -, rfl⟩
        rfl
    · rw [if_pos (by simp [digital])]
      constructor
      · intro isValue
        cases isValue
      · rintro ⟨-, each, -⟩
        exact absurd (List.all_eq_true.mpr each) digital

theorem readLimit?_eq_some_iff {n : Nat} : readLimit? number = some n ↔ Writes number n := by
  unfold readLimit? Writes
  dsimp only
  split
  · rename_i rest plus
    rw [Option.filter_eq_some_iff, decide_eq_true_eq, readDigits?_eq_some_iff]
    constructor
    · rintro ⟨⟨filled, digital, value⟩, small⟩
      exact ⟨rest, .inr plus, filled, digital, value, small⟩
    · rintro ⟨digits, same | same, filled, digital, value, small⟩
      · -- A plus is no digit.
        rw [← same, plus] at digital
        exact absurd (digital '+' List.mem_cons_self) (by decide)
      · obtain rfl : rest = digits := List.tail_eq_of_cons_eq (plus.symm.trans same)
        exact ⟨⟨filled, digital, value⟩, small⟩
  · rename_i noPlus
    rw [Option.filter_eq_some_iff, decide_eq_true_eq, readDigits?_eq_some_iff]
    constructor
    · rintro ⟨⟨filled, digital, value⟩, small⟩
      exact ⟨number.toList, .inl rfl, filled, digital, value, small⟩
    · rintro ⟨digits, rfl | same, filled, digital, value, small⟩
      · exact ⟨⟨filled, digital, value⟩, small⟩
      · exact absurd same (noPlus digits)

/-! ### Groups -/

/-- Arguments that belong together. -/
inductive Group where
  /-- The name of the file, which is no name of an option. -/
  | file (name : String) (plain : ∀ flag : Flag, name ∉ flag.names)
  | noParaphrases (option : String) (named : option ∈ Flag.noParaphrases.names)
  | unique (option : String) (named : option ∈ Flag.unique.names)
  /-- The option and any argument after it. -/
  | start (option : String) (named : option ∈ Flag.start.names) (symbol : String)
  /-- The option and a number after it. -/
  | limit (option : String) (named : option ∈ Flag.limit.names) (number : String) (n : Nat)
      (writes : Writes number n)

namespace Group

/-- The arguments of the group. -/
def args : Group → List String
  | file name _ => [name]
  | noParaphrases option _ => [option]
  | unique option _ => [option]
  | start option _ symbol => [option, symbol]
  | limit option _ number _ _ => [option, number]

/-- The file that the group names. -/
def file? : Group → Option String
  | file name _ => some name
  | _ => none

/-- The start symbol that the group gives. -/
def symbol? : Group → Option String
  | start _ _ symbol => some symbol
  | _ => none

/-- The limit that the group gives. -/
def limit? : Group → Option Nat
  | limit _ _ _ n _ => some n
  | _ => none

/-- Whether the group asks for values without paraphrases. -/
def isNoParaphrases : Group → Bool
  | noParaphrases _ _ => true
  | _ => false

/-- Whether the group asks for no repetitions. -/
def isUnique : Group → Bool
  | unique _ _ => true
  | _ => false

/-- What has been read when the group is read next. -/
def apply (draft : Draft) : Group → Draft
  | file name _ => { draft with file := some name }
  | noParaphrases _ _ => { draft with paraphrase := false }
  | unique _ _ => { draft with unique := true }
  | start _ _ symbol => { draft with start := if symbol.isEmpty then none else some symbol }
  | limit _ _ _ n _ => { draft with limit := n }

end Group

variable {g : Group} {groups others : List Group} {args rest : List String} {file : String}

/-- The arguments of some groups. -/
def arguments (groups : List Group) : List String :=
  groups.flatMap Group.args

/-- What some groups choose that name one file. An empty start symbol stands for none. -/
def chosen (file : String) (groups : List Group) : Options where
  file := file
  start := (groups.filterMap Group.symbol?).getLast?.filter (· ≠ "")
  paraphrase := !groups.any Group.isNoParaphrases
  limit := (groups.filterMap Group.limit?).getLast?.getD 10
  unique := groups.any Group.isUnique

/-! ### Reading groups -/

/-- A group is read as a whole, unless it names a second file. -/
theorem readFrom_group (room : g.file? = none ∨ draft.file = none) (rest : List String) :
    readFrom draft (g.args ++ rest) = readFrom (g.apply draft) rest := by
  cases g with
  | file name plain =>
    have room : draft.file = none := room.resolve_left (by simp [Group.file?])
    show readFrom draft (name :: rest) = _
    rw [readFrom.eq_def draft (name :: rest)]
    simp only [Flag.ofName?_eq_none_iff.mpr plain, room]
    rfl
  | noParaphrases option named =>
    show readFrom draft (option :: rest) = _
    rw [readFrom.eq_def draft (option :: rest)]
    simp only [Flag.ofName?_eq_some_iff.mpr named]
    rfl
  | unique option named =>
    show readFrom draft (option :: rest) = _
    rw [readFrom.eq_def draft (option :: rest)]
    simp only [Flag.ofName?_eq_some_iff.mpr named]
    rfl
  | start option named symbol =>
    show readFrom draft (option :: symbol :: rest) = _
    rw [readFrom.eq_def draft (option :: symbol :: rest)]
    simp only [Flag.ofName?_eq_some_iff.mpr named]
    rfl
  | limit option named number n writes =>
    show readFrom draft (option :: number :: rest) = _
    rw [readFrom.eq_def draft (option :: number :: rest)]
    simp only [Flag.ofName?_eq_some_iff.mpr named, readLimit?_eq_some_iff.mpr writes]
    rfl

/-- The files named so far and later are the same before and after a group is read. -/
theorem files_apply (room : g.file? = none ∨ draft.file = none) (groups : List Group) :
    (g.apply draft).file.toList ++ groups.filterMap Group.file? =
      draft.file.toList ++ (g :: groups).filterMap Group.file? := by
  cases g with
  | file name plain =>
    have room : draft.file = none := room.resolve_left (by simp [Group.file?])
    rw [room]
    rfl
  | _ => rfl

/-- Groups are read one after the other, as long as they name one file at most. -/
theorem readFrom_arguments (groups : List Group) {draft : Draft}
    (one : (draft.file.toList ++ groups.filterMap Group.file?).length ≤ 1) :
    readFrom draft (arguments groups) = readFrom (groups.foldl Group.apply draft) [] := by
  induction groups generalizing draft with
  | nil => rfl
  | cons g groups ih =>
    have room : g.file? = none ∨ draft.file = none := by
      by_contra both
      obtain ⟨named, held⟩ := not_or.mp both
      obtain ⟨name, named⟩ := Option.ne_none_iff_exists'.mp named
      obtain ⟨other, held⟩ := Option.ne_none_iff_exists'.mp held
      rw [held, List.filterMap_cons_some named] at one
      simp at one
    rw [← files_apply room] at one
    show readFrom draft (g.args ++ arguments groups) = _
    rw [readFrom_group room, ih one]
    rfl

/-! ### The last group counts -/

/-- Of the groups that set one thing the last one counts. -/
theorem foldl_last {β : Type} (read : Draft → β) (sets : Group → Option β)
    (each : ∀ draft g, read (Group.apply draft g) = (sets g).getD (read draft))
    (groups : List Group) (draft : Draft) :
    read (groups.foldl Group.apply draft) = (groups.filterMap sets).getLast?.getD (read draft) := by
  induction groups using List.reverseRecOn with
  | nil => rfl
  | append_singleton groups g ih =>
    rw [List.foldl_append, List.filterMap_append, List.getLast?_append]
    show read (Group.apply (groups.foldl Group.apply draft) g) = _
    rw [each, ih]
    cases set : sets g <;> simp [set]

theorem paraphrase_foldl (groups : List Group) (draft : Draft) :
    (groups.foldl Group.apply draft).paraphrase =
      (draft.paraphrase && !groups.any Group.isNoParaphrases) := by
  induction groups generalizing draft with
  | nil => simp
  | cons g groups ih =>
    rw [List.foldl_cons, ih, List.any_cons]
    cases g <;> simp [Group.apply, Group.isNoParaphrases]

theorem unique_foldl (groups : List Group) (draft : Draft) :
    (groups.foldl Group.apply draft).unique = (draft.unique || groups.any Group.isUnique) := by
  induction groups generalizing draft with
  | nil => simp
  | cons g groups ih =>
    rw [List.foldl_cons, ih, List.any_cons]
    cases g <;> simp [Group.apply, Group.isUnique]

/-- Groups that name one file make up the options that they choose. -/
theorem readArguments_arguments (one : groups.filterMap Group.file? = [file]) :
    readArguments (arguments groups) = .ok (.run (chosen file groups)) := by
  have notEmpty : (arguments groups).isEmpty = false := by
    rw [List.isEmpty_eq_false_iff]
    intro empty
    have named : file ∈ groups.filterMap Group.file? := by simp [one]
    obtain ⟨g, mem, -⟩ := List.mem_filterMap.mp named
    have noArgs : g.args = [] := List.flatMap_eq_nil_iff.mp empty g mem
    cases g <;> cases noArgs
  let draft := groups.foldl Group.apply {}
  have isFile : draft.file = some file := by
    have last := foldl_last Draft.file (fun g => g.file?.map some)
      (fun draft g => by cases g <;> rfl) groups {}
    rw [← List.map_filterMap, one] at last
    exact last
  have start : draft.start = (groups.filterMap Group.symbol?).getLast?.filter (· ≠ "") := by
    have last := foldl_last Draft.start
      (fun g => g.symbol?.map fun symbol => if symbol.isEmpty then none else some symbol)
      (fun draft g => by cases g <;> rfl) groups {}
    rw [← List.map_filterMap, List.getLast?_map] at last
    rw [show draft.start = _ from last]
    cases (groups.filterMap Group.symbol?).getLast? with
    | none => rfl
    | some symbol => by_cases empty : symbol = "" <;> simp [empty, Option.filter]
  have limit : draft.limit = (groups.filterMap Group.limit?).getLast?.getD 10 :=
    foldl_last Draft.limit Group.limit? (fun draft g => by cases g <;> rfl) groups {}
  have paraphrase : draft.paraphrase = !groups.any Group.isNoParaphrases :=
    (paraphrase_foldl groups {}).trans (Bool.true_and _)
  have unique : draft.unique = groups.any Group.isUnique :=
    (unique_foldl groups {}).trans (Bool.false_or _)
  rw [readArguments, notEmpty, if_neg Bool.false_ne_true, readFrom_arguments groups (by simp [one])]
  show readFrom draft [] = _
  rw [readFrom, isFile, chosen, ← start, ← limit, ← paraphrase, ← unique]

/-! ### What is not made of groups -/

/-- An argument asks for help, or the arguments are groups that name one file, if none was named
before. -/
def HelpOrGroups (draft : Draft) (args : List String) : Prop :=
  (∃ arg ∈ args, arg ∈ Flag.help.names) ∨ ∃ groups, arguments groups = args ∧
    (draft.file.toList ++ groups.filterMap Group.file?).length = 1

theorem HelpOrGroups.cons (room : g.file? = none ∨ draft.file = none)
    (later : HelpOrGroups (g.apply draft) rest) : HelpOrGroups draft (g.args ++ rest) := by
  rcases later with ⟨arg, mem, asks⟩ | ⟨groups, rfl, one⟩
  · exact .inl ⟨arg, List.mem_append_right _ mem, asks⟩
  · rw [files_apply room] at one
    exact .inr ⟨g :: groups, rfl, one⟩

/-- Nothing else is accepted. -/
theorem help_or_groups {request : Request} (accepted : readFrom draft args = .ok request) :
    HelpOrGroups draft args := by
  induction draft, args using readFrom.induct with
  | case1 draft noFile =>
    rw [readFrom, noFile] at accepted
    cases accepted
  | case2 draft file isFile => exact .inr ⟨[], rfl, by simp [isFile]⟩
  | case3 draft arg rest named =>
    exact .inl ⟨arg, List.mem_cons_self, Flag.ofName?_eq_some_iff.mp named⟩
  | case4 draft arg rest named ih =>
    rw [readFrom.eq_def] at accepted
    simp only [named] at accepted
    exact (ih accepted).cons (g := .noParaphrases arg (Flag.ofName?_eq_some_iff.mp named)) (.inl rfl)
  | case5 draft arg rest named ih =>
    rw [readFrom.eq_def] at accepted
    simp only [named] at accepted
    exact (ih accepted).cons (g := .unique arg (Flag.ofName?_eq_some_iff.mp named)) (.inl rfl)
  | case6 draft arg named =>
    rw [readFrom.eq_def] at accepted
    simp [named] at accepted
  | case7 draft arg named symbol rest ih =>
    rw [readFrom.eq_def] at accepted
    simp only [named] at accepted
    exact (ih accepted).cons (g := .start arg (Flag.ofName?_eq_some_iff.mp named) symbol) (.inl rfl)
  | case8 draft arg named =>
    rw [readFrom.eq_def] at accepted
    simp [named] at accepted
  | case9 draft arg named number rest noNumber =>
    rw [readFrom.eq_def] at accepted
    simp [named, noNumber] at accepted
  | case10 draft arg named number rest n isNumber ih =>
    rw [readFrom.eq_def] at accepted
    simp only [named, isNumber] at accepted
    exact (ih accepted).cons (g := .limit arg (Flag.ofName?_eq_some_iff.mp named) number n
      (readLimit?_eq_some_iff.mp isNumber)) (.inl rfl)
  | case11 draft arg rest unnamed noFile ih =>
    rw [readFrom.eq_def] at accepted
    simp only [unnamed, noFile] at accepted
    exact (ih accepted).cons (g := .file arg (Flag.ofName?_eq_none_iff.mp unnamed)) (.inr noFile)
  | case12 draft arg rest unnamed file isFile =>
    rw [readFrom.eq_def] at accepted
    simp [unnamed, isFile] at accepted

theorem chosen_of_perm (same : others.Perm groups)
    (starts : others.filterMap Group.symbol? = groups.filterMap Group.symbol?)
    (limits : others.filterMap Group.limit? = groups.filterMap Group.limit?) :
    chosen file others = chosen file groups := by
  rw [chosen, chosen, starts, limits, same.any_eq, same.any_eq]

/-! ### Argument vectors -/

/-- **Options commute.** A vector in which groups that name one file follow the name of the program
is accepted with the options that they choose, of which the last start symbol and the last limit
count; the groups may be permuted, as long as the start symbols keep their order and the limits
theirs. A vector that is not of this kind is rejected, unless an argument asks for help. -/
theorem options_commute (vector : List String) :
    (∀ program groups file, vector = program :: arguments groups →
      groups.filterMap Group.file? = [file] →
        readVector vector = .ok (.run (chosen file groups)) ∧
        ∀ others : List Group, others.Perm groups →
          others.filterMap Group.symbol? = groups.filterMap Group.symbol? →
          others.filterMap Group.limit? = groups.filterMap Group.limit? →
          readVector (program :: arguments others) = readVector vector) ∧
    ((∀ arg ∈ vector.tail, arg ≠ "-h" ∧ arg ≠ "--help") →
      (∀ program groups, vector = program :: arguments groups →
        (groups.filterMap Group.file?).length ≠ 1) →
      ∃ message, readVector vector = .error message) := by
  have accepts {program : String} {groups : List Group} {file : String}
      (one : groups.filterMap Group.file? = [file]) :
      readVector (program :: arguments groups) = .ok (.run (chosen file groups)) := by
    rw [readVector, readArguments_arguments one]
    rfl
  constructor
  · rintro program groups file rfl one
    refine ⟨accepts one, fun others same starts limits => ?_⟩
    have oneOther : others.filterMap Group.file? = [file] := by
      have files : (others.filterMap Group.file?).Perm [file] := one ▸ same.filterMap Group.file?
      exact List.perm_singleton.mp files
    rw [accepts oneOther, accepts one, chosen_of_perm same starts limits]
  · intro noHelp noGroups
    cases vector with
    | nil => exact ⟨_, rfl⟩
    | cons program args =>
      cases result : readArguments args with
      | error e => exact ⟨e.message program, by rw [readVector, result]; rfl⟩
      | ok request =>
        have accepted : readFrom {} args = .ok request := by
          rw [readArguments] at result
          split at result
          · cases result
          · exact result
        rcases help_or_groups accepted with ⟨arg, mem, asks⟩ | ⟨groups, rfl, one⟩
        · have other := noHelp arg mem
          simp [Flag.names, other.1, other.2] at asks
        · exact absurd one (noGroups program groups rfl)

/-- A file and values without repetitions. -/
def fileGroups : List Group :=
  [.file "g" fun flag => by cases flag <;> decide, .unique "-u" (by decide)]

/-- Two start symbols, of which the last one looks like an option, and two limits. -/
def valueGroups : List Group :=
  [.start "-s" (by decide) "claim",
    .limit "--limit" (by decide) "+3" 3 (readLimit?_eq_some_iff.mp (by decide)),
    .start "--start" (by decide) "-n",
    .limit "-l" (by decide) "07" 7 (readLimit?_eq_some_iff.mp (by decide))]

theorem file_and_values_commute :
    let vector := ["argrammar", "g", "-u", "-s", "claim", "--limit", "+3", "--start", "-n", "-l", "07"]
    readVector vector = .ok (.run ⟨"g", some "-n", true, 7, true⟩) ∧
      readVector ["argrammar", "-s", "claim", "--limit", "+3", "--start", "-n", "-l", "07", "g", "-u"] =
        readVector vector ∧
      ∃ message, readVector ["argrammar", "g", "-l"] = .error message := by
  intro vector
  have one : (fileGroups ++ valueGroups).filterMap Group.file? = ["g"] := by rfl
  obtain ⟨accepted, commutes⟩ :=
    (options_commute vector).1 "argrammar" (fileGroups ++ valueGroups) "g" rfl one
  refine ⟨accepted.trans (by rfl), ?_, ?_⟩
  · exact commutes (valueGroups ++ fileGroups) List.perm_append_comm rfl rfl
  · refine (options_commute ["argrammar", "g", "-l"]).2 (by decide) fun program groups same one => ?_
    obtain ⟨file, one⟩ := List.length_eq_one_iff.mp one
    have accepted := ((options_commute ["argrammar", "g", "-l"]).1 program groups file same one).1
    have rejected : readVector ["argrammar", "g", "-l"] =
        .error (ArgumentError.badLimit.message "argrammar") := by rfl
    rw [rejected] at accepted
    cases accepted

end CommandLine
end ReversibleGrammar
