import ReversibleGrammar.Assignment
import ReversibleGrammar.Closure
import ReversibleGrammar.CommandLine.Options
import ReversibleGrammar.CommandLine.Prompt
import ReversibleGrammar.CommandLine.Run
import ReversibleGrammar.Course
import ReversibleGrammar.Feed
import ReversibleGrammar.FieldMap
import ReversibleGrammar.Folder
import ReversibleGrammar.Fragment
import ReversibleGrammar.Grammar
import ReversibleGrammar.Grammar.Analysis
import ReversibleGrammar.Grammar.Loading
import ReversibleGrammar.Graph
import ReversibleGrammar.LoadError
import ReversibleGrammar.Main
import ReversibleGrammar.NameSet
import ReversibleGrammar.Notation.Lexeme
import ReversibleGrammar.Notation.Problem
import ReversibleGrammar.Notation.Reader
import ReversibleGrammar.Parser.Basic
import ReversibleGrammar.Parser.Derivations
import ReversibleGrammar.Parser.Realizations
import ReversibleGrammar.Rule
import ReversibleGrammar.Search
import ReversibleGrammar.Sentence
import ReversibleGrammar.Session
import ReversibleGrammar.Template
import ReversibleGrammar.Template.Building
import ReversibleGrammar.Template.Decomposition
import ReversibleGrammar.Template.Fault
import ReversibleGrammar.Terminal
import ReversibleGrammar.Text.Quoted
import ReversibleGrammar.Unicode.Alphabetic
import ReversibleGrammar.Unicode.Blank
import ReversibleGrammar.Unicode.Printable
import ReversibleGrammar.Unicode.Ranges
import ReversibleGrammar.Unicode.Uppercase
import ReversibleGrammar.Unicode.WordCharacter
import ReversibleGrammar.Value
import ReversibleGrammar.Word
import ReversibleGrammar.Proofs.Enumeration
import ReversibleGrammar.Proofs.Search.Outcome
import ReversibleGrammar.Proofs.Tree.Basic
import ReversibleGrammar.Proofs.Tree.Derivation
import ReversibleGrammar.Proofs.Parser.Parsing
import ReversibleGrammar.Proofs.Assignment.Union
import ReversibleGrammar.Proofs.Template.Gathering
import ReversibleGrammar.Proofs.Parser.Realizing
import ReversibleGrammar.Proofs.FieldMap.Names
import ReversibleGrammar.Proofs.Template.Building
import ReversibleGrammar.Proofs.Assignment.Holding
import ReversibleGrammar.Proofs.Value.Tolerance
import ReversibleGrammar.Proofs.Template.Agreement
import ReversibleGrammar.Proofs.Template.Recovery
import ReversibleGrammar.Proofs.Parser.RoundTrip
import ReversibleGrammar.Proofs.Parser.ReadingBack
import ReversibleGrammar.Proofs.Parser.Language
import ReversibleGrammar.Proofs.Graph.Rank
import ReversibleGrammar.Proofs.Grammar.Nullable
import ReversibleGrammar.Proofs.Grammar.LeftRecursion
import ReversibleGrammar.Proofs.Parser.Nesting
import ReversibleGrammar.Proofs.Template.Total
import ReversibleGrammar.Proofs.Parser.Depth
import ReversibleGrammar.Proofs.Search.CutOff
import ReversibleGrammar.Proofs.Parser.Budget
import ReversibleGrammar.Proofs.Notation.Blank
import ReversibleGrammar.Proofs.Notation.Lexemes
import ReversibleGrammar.Proofs.Success
import ReversibleGrammar.Proofs.Template.Parts
import ReversibleGrammar.Proofs.Tree.Realization
import ReversibleGrammar.Proofs.Notation.Syntax
import ReversibleGrammar.Proofs.Grammar.Joining
import ReversibleGrammar.Proofs.Grammar.Loading
import ReversibleGrammar.Proofs.Grammar.Order
import ReversibleGrammar.Proofs.Grammar.Printing
import ReversibleGrammar.Proofs.Notation.Expressible
import ReversibleGrammar.Proofs.Notation.Joining
import ReversibleGrammar.Proofs.Notation.Places
import ReversibleGrammar.Proofs.Notation.PrintedLexemes
import ReversibleGrammar.Proofs.Notation.Printing
import ReversibleGrammar.Proofs.Notation.Rules
import ReversibleGrammar.Proofs.Template.FixedStrings
import ReversibleGrammar.Proofs.Text.Reread
import ReversibleGrammar.Proofs.Search.Comparison
import ReversibleGrammar.Proofs.Grammar.References
import ReversibleGrammar.Proofs.Parser.OtherRules
import ReversibleGrammar.Proofs.Feed.Reading
import ReversibleGrammar.Proofs.Session.Streams
import ReversibleGrammar.Proofs.Template.Faults
import ReversibleGrammar.Proofs.Parser.Defects
import ReversibleGrammar.Proofs.Template.Apart
import ReversibleGrammar.Proofs.Parser.SoundTemplates
import ReversibleGrammar.Proofs.Template.Words
import ReversibleGrammar.Proofs.Parser.Provenance
import ReversibleGrammar.Proofs.CommandLine.Memoryless
import ReversibleGrammar.Proofs.Assignment.Laws
import ReversibleGrammar.Proofs.Text.ByteOrder
import ReversibleGrammar.Proofs.Template.SeveralTails
import ReversibleGrammar.Proofs.Assignment.Setting
import ReversibleGrammar.Proofs.Template.GatheringOrder
import ReversibleGrammar.Proofs.Template.Records
import ReversibleGrammar.Proofs.Template.Obstacles
import ReversibleGrammar.Proofs.Parser.Misfits
import ReversibleGrammar.Proofs.NameSet
import ReversibleGrammar.Proofs.Grammar.NullablePasses
import ReversibleGrammar.Proofs.Parser.EmptySentence
import ReversibleGrammar.Proofs.Table
import ReversibleGrammar.Proofs.Graph.CycleSearch
import ReversibleGrammar.Proofs.Grammar.CyclicStarts
import ReversibleGrammar.Proofs.Grammar.Register
import ReversibleGrammar.Proofs.Grammar.WellFormed
import ReversibleGrammar.Proofs.Grammar.Refusals
import ReversibleGrammar.Proofs.Sentence.Segments
import ReversibleGrammar.Proofs.Unicode.RaisedWords
import ReversibleGrammar.Proofs.CommandLine.Groups
import ReversibleGrammar.Proofs.Sentence.Joining
import ReversibleGrammar.Proofs.Parser.Positions
import ReversibleGrammar.Proofs.Feed.Drawing
import ReversibleGrammar.Proofs.Feed.Repeats
