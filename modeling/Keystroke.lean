import Keystroke.Code.Arduino
import Keystroke.Code.CircuitPython
import Keystroke.Code.Line
import Keystroke.Code.Notes
import Keystroke.Code.Rendering
import Keystroke.Command.Basic
import Keystroke.Command.Key
import Keystroke.Command.Kind
import Keystroke.CommandLine.Arguments
import Keystroke.CommandLine.Execution
import Keystroke.CommandLine.FileAccess
import Keystroke.CommandLine.FileSystem
import Keystroke.CommandLine.Path
import Keystroke.CommandLine.Performing
import Keystroke.CommandLine.Report
import Keystroke.CommandLine.Request
import Keystroke.Compilation
import Keystroke.Context
import Keystroke.Device.Advice
import Keystroke.Device.Basic
import Keystroke.Device.Family
import Keystroke.Device.Registry
import Keystroke.Device.Vocabulary
import Keystroke.Encoder
import Keystroke.Failure
import Keystroke.Failure.Report
import Keystroke.Grammar
import Keystroke.Log
import Keystroke.Main
import Keystroke.Plan.Action
import Keystroke.Plan.Fault
import Keystroke.Plan.KeyName
import Keystroke.Plan.Planning
import Keystroke.Roster
import Keystroke.Script.Advice
import Keystroke.Script.Basic
import Keystroke.Script.Reading
import Keystroke.Session
import Keystroke.Text.Case
import Keystroke.Text.Integer
import Keystroke.Text.Literal
import Keystroke.Text.Printable
import Keystroke.Text.Quoted
import Keystroke.Text.Search
import Keystroke.Text.Seconds
import Keystroke.Text.Space
import Keystroke.Proofs.Outcome
import Keystroke.Proofs.Settings
import Keystroke.Proofs.Planned
import Keystroke.Proofs.Stateless
import Keystroke.Proofs.Words
import Keystroke.Proofs.Annotation
import Keystroke.Proofs.Verbosity
import Keystroke.Proofs.Keyword
import Keystroke.Proofs.LineGrammar
import Keystroke.Proofs.LineMatching
import Keystroke.Proofs.Resolving
import Keystroke.Proofs.Encodable
import Keystroke.Proofs.EncodingFailure
import Keystroke.Proofs.Numeral
import Keystroke.Proofs.KnownKeys
import Keystroke.Proofs.AcceptedScript
import Keystroke.Proofs.Statements
import Keystroke.Proofs.Deeds
import Keystroke.Proofs.Performance
import Keystroke.Proofs.HeldKeys
import Keystroke.Proofs.Replaying
import Keystroke.Proofs.Lines
import Keystroke.Proofs.Reading
import Keystroke.Proofs.Layout
import Keystroke.Proofs.LineBreaks
import Keystroke.Proofs.ProgramLines
import Keystroke.Proofs.BothFamilies
import Keystroke.Proofs.Splicing
import Keystroke.Proofs.Indentation
import Keystroke.Proofs.Nesting
import Keystroke.Proofs.CarriageReturns
import Keystroke.Proofs.Warnings
import Keystroke.Proofs.FileChanges
import Keystroke.Proofs.Requests
import Keystroke.Proofs.FrontEnds
import Keystroke.Proofs.LetterCase
import Keystroke.Proofs.Printing
import Keystroke.Proofs.Respelling
import Keystroke.Proofs.Advice
import Keystroke.Proofs.Registration
import Keystroke.Proofs.Literals
import Keystroke.Proofs.SessionHistory
import Keystroke.Proofs.DecimalSeconds
import Keystroke.Proofs.WrittenNumbers
import Keystroke.Proofs.ShownConditions
import Keystroke.Proofs.KeySymbols
import Keystroke.Proofs.KeywordBytes
import Keystroke.Proofs.Records
import Keystroke.Proofs.LineCounts
