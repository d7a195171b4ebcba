/-
# Streams that are read in turns

A session opens streams and reads from them in any order. A reading takes what it brings
out of its own stream and leaves the others as they are, so what the readings of one
stream bring, put together, is the front of what that stream hands out when it is read
alone. Only the count of trials is shared. A reading adds to it what the stream alone
needs to come as far, so at the end of the session the count is the sum over all
streams that were opened.

That sum is found by looking ahead. What the open streams still have to make for the
readings to come is owed by the session; opening a stream adds to it what the stream will
be asked for, and a reading turns a part of it into trials made.

Key definitions: `Session.Request`, `Session.Move`, `Session.run`, `Session.received`,
`Session.asked`, `Session.charged`.
Key theorems: `Session.received_of_get?`, `Session.trials_run`,
`Session.streams_do_not_interfere`.
-/
import Mathlib.Algebra.BigOperators.Group.Finset.Basic
import ReversibleGrammar.Proofs.Feed.Reading
import ReversibleGrammar.Session

namespace ReversibleGrammar

/-- What a stream hands out. -/
inductive Found where
  | value (value : Value)
  | sentence (words : List Word)

/-! ### One stream -/

namespace Yield

/-- What the reading brought, its fault included. -/
def outcomes : Yield → List (Except SearchFault Found)
  | values harvest => harvest.outcomes.map (.map .value)
  | sentences harvest => harvest.outcomes.map (.map .sentence)

def trials : Yield → Nat
  | values harvest => harvest.trials
  | sentences harvest => harvest.trials

/-- The stream that the reading leaves. -/
def rest : Yield → OpenStream
  | values harvest => .values harvest.rest
  | sentences harvest => .sentences harvest.rest

end Yield

namespace OpenStream

/-- Everything that the stream hands out when it is drained. -/
def toList : OpenStream → List (Except SearchFault Found)
  | values feed => feed.toList.map (.map .value)
  | sentences feed => feed.toList.map (.map .sentence)

/-- What the stream hands out, up to and including its first fault. -/
def outcomes : OpenStream → List (Except SearchFault Found)
  | values feed => feed.outcomes.map (.map .value)
  | sentences feed => feed.outcomes.map (.map .sentence)

/-- Up to a number of items of the stream, read alone. -/
def read (count : Nat) : OpenStream → Yield
  | values feed => .values (feed.harvest count)
  | sentences feed => .sentences (feed.harvest count)

theorem outcomes_read (stream : OpenStream) (n : Nat) :
    (stream.read n).outcomes = stream.outcomes.take n := by
  cases stream with
  | values feed => exact (congrArg _ (feed.harvest_reads n).outcomes).trans List.map_take
  | sentences feed => exact (congrArg _ (feed.harvest_reads n).outcomes).trans List.map_take

theorem outcomes_rest_read (stream : OpenStream) (n : Nat) :
    (stream.read n).rest.outcomes = stream.outcomes.drop n := by
  cases stream with
  | values feed => exact (congrArg _ (feed.harvest_reads n).outcomes_rest).trans List.map_drop
  | sentences feed => exact (congrArg _ (feed.harvest_reads n).outcomes_rest).trans List.map_drop

/-- Two readings make the trials of one that is as long as both. -/
theorem trials_read_add (stream : OpenStream) (n m : Nat) :
    (stream.read (n + m)).trials = (stream.read n).trials + ((stream.read n).rest.read m).trials := by
  cases stream with
  | values feed => exact feed.trials_harvest_add n m
  | sentences feed => exact feed.trials_harvest_add n m

theorem trials_read_zero (stream : OpenStream) : (stream.read 0).trials = 0 := by
  cases stream <;> rfl

end OpenStream

namespace Session

/-! ### Sessions as lists of moves -/

/-- What a stream is opened for. -/
inductive Request where
  | values (symbol : String) (words : List Word) (unique : Bool)
  | sentences (symbol : String) (value : Value) (unique : Bool)

/-- What a session does next. -/
inductive Move where
  | openStream (name : String) (request : Request)
  | read (name : String) (count : Nat)

/-- The stream of a request, before anything is read from it. -/
def Request.stream (p : Parser) : Request → OpenStream
  | values symbol words unique => .values ((p.parse symbol words).uniqueIf unique)
  | sentences symbol value unique => .sentences ((p.realize symbol value).uniqueIf unique)

/-- The name of the stream that a move is about. -/
def Move.name : Move → String
  | openStream name _ => name
  | read name _ => name

/-- Opens the stream of a request, in place of the stream of that name. -/
def openFor (s : Session) (name : String) : Request → Session
  | .values symbol words unique => s.openValues name symbol words unique
  | .sentences symbol value unique => s.openSentences name symbol value unique

/-- The session after a move; nothing comes of reading where no stream is open. -/
def after (s : Session) : Move → Session
  | .openStream name request => s.openFor name request
  | .read name count =>
    match s.take name count with
    | none => s
    | some (_, next) => next

/-- The session after some moves. -/
def run (s : Session) (moves : List Move) : Session :=
  moves.foldl after s

/-- What a reading brings. -/
def brought (s : Session) (name : String) (count : Nat) : List (Except SearchFault Found) :=
  match s.take name count with
  | none => []
  | some (yield, _) => yield.outcomes

/-- What the readings of one stream bring, until another stream takes its name. -/
def received (name : String) : Session → List Move → List (Except SearchFault Found)
  | _, [] => []
  | s, .openStream other request :: rest =>
    if other = name then [] else received name (s.after (.openStream other request)) rest
  | s, .read other count :: rest =>
    (if other = name then s.brought other count else []) ++
      received name (s.after (.read other count)) rest

/-- How many items the stream of a name is asked for, until another takes its name. -/
def asked (name : String) : List Move → Nat
  | [] => 0
  | .openStream other _ :: rest => if other = name then 0 else asked name rest
  | .read other count :: rest => (if other = name then count else 0) + asked name rest

/-- The trials that each stream makes alone to hand out what it is asked for, over all
streams that the moves open. -/
def charged (p : Parser) : List Move → Nat
  | [] => 0
  | .openStream name request :: rest =>
    ((request.stream p).read (asked name rest)).trials + charged p rest
  | .read _ _ :: rest => charged p rest

/-- A session without streams, for a parser that has tried rules before. -/
def startAfter (p : Parser) (made : Nat) : Session :=
  ⟨p, made, .empty, .empty⟩

/-! ### What one move does -/

variable {s : Session} {name other : String} {request : Request} {stream : OpenStream} {count : Nat}

theorem after_openStream : s.after (.openStream name request) =
    { s with streams := s.streams.put name (request.stream s.parser) } := by
  cases request <;> rfl

theorem take_of_none (absent : s.streams.get? name = none) : s.take name count = none := by
  rw [take, absent]

/-- A reading is that of the stream alone; the stream is left where the reading ends. -/
theorem take_of_get? (is_open : s.streams.get? name = some stream) :
    ∃ next, s.take name count = some (stream.read count, next) ∧ next.parser = s.parser ∧
      next.trials = s.trials + (stream.read count).trials ∧
      next.streams = s.streams.put name (stream.read count).rest := by
  rw [take, is_open]
  cases stream with
  | values feed => exact ⟨_, rfl, rfl, rfl, rfl⟩
  | sentences feed => exact ⟨_, rfl, rfl, rfl, rfl⟩

theorem brought_of_get? (is_open : s.streams.get? name = some stream) :
    s.brought name count = (stream.read count).outcomes := by
  obtain ⟨next, taken, -⟩ := take_of_get? is_open
  rw [brought, taken]

theorem after_read_of_none (absent : s.streams.get? name = none) :
    s.after (.read name count) = s := by
  rw [after, take_of_none absent]

theorem get?_after_read (is_open : s.streams.get? name = some stream) :
    (s.after (.read name count)).streams.get? name = some (stream.read count).rest := by
  obtain ⟨next, taken, -, -, streams⟩ := take_of_get? is_open
  rw [after, taken]
  show next.streams.get? name = _
  rw [streams, FieldMap.get?_put, if_pos rfl]

/-- A move leaves the streams of all other names as they are. -/
theorem get?_after_of_ne (move : Move) (ne : move.name ≠ name) :
    (s.after move).streams.get? name = s.streams.get? name := by
  cases move with
  | openStream other request =>
    rw [after_openStream]
    exact (FieldMap.get?_put _ _ _ _).trans (if_neg ne)
  | read other count =>
    rcases found : s.streams.get? other with _ | stream
    · rw [after_read_of_none found]
    · obtain ⟨next, taken, -, -, streams⟩ := take_of_get? found
      rw [after, taken]
      show next.streams.get? name = _
      rw [streams]
      exact (FieldMap.get?_put _ _ _ _).trans (if_neg ne)

theorem parser_after (s : Session) (move : Move) : (s.after move).parser = s.parser := by
  cases move with
  | openStream name request => rw [after_openStream]
  | read name count =>
    rcases found : s.streams.get? name with _ | stream
    · rw [after_read_of_none found]
    · obtain ⟨next, taken, parser, -⟩ := take_of_get? found
      rw [after, taken]
      exact parser

theorem parser_run (s : Session) (moves : List Move) : (s.run moves).parser = s.parser := by
  induction moves generalizing s with
  | nil => rfl
  | cons move moves ih => exact (ih (s.after move)).trans (parser_after s move)

/-! ### What a stream hands out -/

/-- The readings of an open stream bring the front of what it hands out. -/
theorem received_of_get? {moves : List Move} (is_open : s.streams.get? name = some stream) :
    received name s moves = stream.outcomes.take (asked name moves) := by
  induction moves generalizing s stream with
  | nil => rfl
  | cons move moves ih =>
    cases move with
    | openStream other request =>
      rw [received, asked]
      split
      · rfl
      · rename_i ne
        exact ih ((get?_after_of_ne (.openStream other request) ne).trans is_open)
    | read other count =>
      rw [received, asked]
      by_cases same : other = name
      · subst same
        have behind : received other (s.after (.read other count)) moves =
            (stream.outcomes.drop count).take (asked other moves) := by
          rw [ih (get?_after_read is_open), stream.outcomes_rest_read]
        rw [if_pos rfl, if_pos rfl, brought_of_get? is_open, stream.outcomes_read, behind,
          List.take_add]
      · rw [if_neg same, if_neg same, List.nil_append, Nat.zero_add]
        exact ih ((get?_after_of_ne (.read other count) same).trans is_open)

/-- A stream that is opened for a request hands out its fault, if it has one, last. -/
theorem Request.outcomes_stream (p : Parser) (request : Request) :
    (request.stream p).outcomes = (request.stream p).toList := by
  cases request with
  | values symbol words unique =>
    exact congrArg _ ((p.parseSearch symbol words).outcomes_uniqueIf unique)
  | sentences symbol value unique =>
    exact congrArg _ ((p.realizeSearch symbol value).outcomes_uniqueIf unique)

/-! ### How many rules are tried -/

/-- The trials that a name still makes for so many items; without a stream, none. -/
def owed (stream : Option OpenStream) (count : Nat) : Nat :=
  (stream.map fun stream => (stream.read count).trials).getD 0

theorem owed_zero (stream : Option OpenStream) : owed stream 0 = 0 := by
  cases stream with
  | none => rfl
  | some stream => exact stream.trials_read_zero

theorem trials_after_read (s : Session) (name : String) (count : Nat) :
    (s.after (.read name count)).trials = s.trials + owed (s.streams.get? name) count := by
  rcases found : s.streams.get? name with _ | stream
  · rw [after_read_of_none found]
    rfl
  · obtain ⟨next, taken, -, trials, -⟩ := take_of_get? found
    rw [after, taken]
    exact trials

theorem trials_after_openStream (s : Session) (name : String) (request : Request) :
    (s.after (.openStream name request)).trials = s.trials := by
  rw [after_openStream]

/-- What a name owes before a reading, the reading makes or the name owes after it. -/
theorem owed_after_read (s : Session) (name : String) (count more : Nat) :
    owed (s.streams.get? name) (count + more) =
      owed (s.streams.get? name) count +
        owed ((s.after (.read name count)).streams.get? name) more := by
  rcases found : s.streams.get? name with _ | stream
  · rw [after_read_of_none found, found]
    rfl
  · rw [get?_after_read found]
    exact stream.trials_read_add count more

/-- Sums of what names owe differ by as much as one name does, if no other differs. -/
theorem sum_eq_add_sum {names : Finset String} {f g : String → Nat} {extra : Nat}
    (mem : name ∈ names) (here : f name = extra + g name)
    (elsewhere : ∀ other, name ≠ other → f other = g other) :
    ∑ other ∈ names, f other = extra + ∑ other ∈ names, g other := by
  have same : ∑ other ∈ names.erase name, f other = ∑ other ∈ names.erase name, g other :=
    Finset.sum_congr rfl fun other mem => elsewhere other (Finset.ne_of_mem_erase mem).symm
  rw [← Finset.add_sum_erase names f mem, ← Finset.add_sum_erase names g mem, here, same,
    Nat.add_assoc]

/-- The trials of a run are those made before it, those that the streams open at its
beginning owe, and those of the streams that it opens. -/
theorem trials_run {moves : List Move} {names : Finset String}
    (named : ∀ move ∈ moves, move.name ∈ names) :
    (s.run moves).trials = s.trials +
      ∑ name ∈ names, owed (s.streams.get? name) (asked name moves) + charged s.parser moves := by
  induction moves generalizing s with
  | nil => simp [run, asked, charged, owed_zero]
  | cons move moves ih =>
    obtain ⟨mem, named⟩ := List.forall_mem_cons.mp named
    have rest := ih named (s := s.after move)
    rw [parser_after] at rest
    show ((s.after move).run moves).trials = _
    rw [rest]
    cases move with
    | openStream name request =>
      have mem : name ∈ names := mem
      have opened : ∑ other ∈ names,
          owed ((s.after (.openStream name request)).streams.get? other) (asked other moves) =
            ((request.stream s.parser).read (asked name moves)).trials + ∑ other ∈ names,
              owed (s.streams.get? other) (asked other (.openStream name request :: moves)) := by
        refine sum_eq_add_sum mem ?_ fun other ne => ?_
        · rw [after_openStream, FieldMap.get?_put, if_pos rfl, asked, if_pos rfl, owed_zero]
          rfl
        · rw [get?_after_of_ne (.openStream name request) ne, asked, if_neg ne]
      rw [opened, trials_after_openStream, charged]
      omega
    | read name count =>
      have mem : name ∈ names := mem
      have made : ∑ other ∈ names, owed (s.streams.get? other) (asked other (.read name count :: moves)) =
          owed (s.streams.get? name) count + ∑ other ∈ names,
            owed ((s.after (.read name count)).streams.get? other) (asked other moves) := by
        refine sum_eq_add_sum mem ?_ fun other ne => ?_
        · rw [asked, if_pos rfl, owed_after_read]
        · rw [get?_after_of_ne (.read name count) ne, asked, if_neg ne, Nat.zero_add]
      rw [made, trials_after_read, charged]
      omega

/-- **Streams of one parser do not interfere.** In a session that opens streams and reads
from them in any order, the readings of each stream bring the front of what it hands out
when it is opened alone and drained, which has a fault only at its end; after the
session the count of trials has grown by what each of its streams makes alone to hand out
as much; and to open a stream tries no rule. -/
theorem streams_do_not_interfere (p : Parser) (made : Nat) :
    (∀ before name request later,
      received name ((startAfter p made).run (before ++ [.openStream name request])) later =
        (request.stream p).toList.take (asked name later)) ∧
    (∀ request : Request, (request.stream p).outcomes = (request.stream p).toList) ∧
    (∀ moves, ((startAfter p made).run moves).trials = made + charged p moves) ∧
    (∀ before name request,
      ((startAfter p made).run (before ++ [.openStream name request])).trials =
        ((startAfter p made).run before).trials) := by
  have opened (before : List Move) (name : String) (request : Request) :
      (startAfter p made).run (before ++ [.openStream name request]) =
        ((startAfter p made).run before).after (.openStream name request) :=
    List.foldl_concat ..
  refine ⟨fun before name request later => ?_, Request.outcomes_stream p, fun moves => ?_,
    fun before name request => ?_⟩
  · have is_open : ((startAfter p made).run (before ++ [.openStream name request])).streams.get? name =
        some (request.stream p) := by
      rw [opened, after_openStream, FieldMap.get?_put, if_pos rfl, parser_run]
      rfl
    rw [received_of_get? is_open, Request.outcomes_stream]
  · have named : ∀ move ∈ moves, move.name ∈ (moves.map Move.name).toFinset := by
      intro move mem
      rw [List.mem_toFinset]
      exact List.mem_map_of_mem mem
    have nothing_owed : ∑ name ∈ (moves.map Move.name).toFinset,
        owed ((startAfter p made).streams.get? name) (asked name moves) = 0 :=
      Finset.sum_eq_zero fun name _ => rfl
    rw [trials_run named, nothing_owed]
    rfl
  · rw [opened, trials_after_openStream]

end Session

end ReversibleGrammar
