/-
# Sessions

A session keeps several streams of one parser open at the same time. A stream is
opened by name, and later readings take up where the last one ended; all trials
are counted together. The last value that was read from a stream of values is
remembered under the stream's name, so that it can be realized.

Key definitions: `Session`, `Session.openValues`, `Session.openSentences`,
`Session.take`.
-/
import ReversibleGrammar.Parser.Derivations
import ReversibleGrammar.Parser.Realizations

namespace ReversibleGrammar

/-- What is left of an open stream. -/
inductive OpenStream where
  | values (feed : Feed (Except SearchFault Value))
  | sentences (feed : Feed (Except SearchFault (List Word)))

/-- What one reading of a stream brought. -/
inductive Yield where
  | values (harvest : Feed.Harvest SearchFault Value)
  | sentences (harvest : Feed.Harvest SearchFault (List Word))

/-- A parser with open streams. -/
structure Session where
  parser : Parser
  /-- The rules tried so far, over all streams. -/
  trials : Nat
  streams : FieldMap OpenStream
  /-- The last value read from a stream of values of the name. -/
  lastValues : FieldMap Value

namespace Session

/-- A session without streams. -/
def start (parser : Parser) : Session :=
  ⟨parser, 0, .empty, .empty⟩

/-- Opens a stream of the values of a sentence, in place of the stream of that name. -/
def openValues (s : Session) (name symbol : String) (words : List Word) (unique : Bool) :
    Session :=
  { s with streams := s.streams.put name (.values ((s.parser.parse symbol words).uniqueIf unique)) }

/-- Opens a stream of the sentences for a value, in place of the stream of that name. -/
def openSentences (s : Session) (name symbol : String) (value : Value) (unique : Bool) :
    Session :=
  { s with
    streams := s.streams.put name (.sentences ((s.parser.realize symbol value).uniqueIf unique)) }

/-- The last value read from a stream of values of the name, or null. -/
def lastValue (s : Session) (name : String) : Value :=
  (s.lastValues.get? name).getD .null

/-- Reads up to a number of items from a stream; there may be no stream of the name. -/
def take (s : Session) (name : String) (count : Nat) : Option (Yield × Session) :=
  match s.streams.get? name with
  | none => none
  | some (.values feed) =>
    let harvest := feed.harvest count
    some (.values harvest, { s with
      trials := s.trials + harvest.trials
      streams := s.streams.put name (.values harvest.rest)
      lastValues := match harvest.items.getLast? with
        | none => s.lastValues
        | some value => s.lastValues.put name value })
  | some (.sentences feed) =>
    let harvest := feed.harvest count
    some (.sentences harvest, { s with
      trials := s.trials + harvest.trials
      streams := s.streams.put name (.sentences harvest.rest) })

end Session

end ReversibleGrammar
