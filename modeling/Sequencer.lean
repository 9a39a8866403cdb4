import Sequencer.Binary64.Basic
import Sequencer.Binary64.Places
import Sequencer.Binary64.Reading
import Sequencer.Binary64.Shortest
import Sequencer.Calendar.Iso
import Sequencer.Calendar.Moment
import Sequencer.Calendar.Stamp
import Sequencer.CommandLine.Invocation
import Sequencer.CommandLine.Reading
import Sequencer.CommandLine.Word
import Sequencer.Config.Loading
import Sequencer.Config.Schema
import Sequencer.Config.Settings
import Sequencer.Counter
import Sequencer.Failure
import Sequencer.Files.Path
import Sequencer.Files.Tree
import Sequencer.Generator.Basic
import Sequencer.Generator.Batch
import Sequencer.Generator.Retry
import Sequencer.Generator.Schedule
import Sequencer.Generator.Session
import Sequencer.Generator.Shared
import Sequencer.Generator.Source
import Sequencer.Generator.Summary
import Sequencer.Identifier.Layout
import Sequencer.Identifier.Parts
import Sequencer.Json.Reader
import Sequencer.Json.Writer
import Sequencer.Log.Logger
import Sequencer.Log.Record
import Sequencer.Log.Template
import Sequencer.Main
import Sequencer.Number
import Sequencer.Proofs.Accounts
import Sequencer.Proofs.Attempts
import Sequencer.Proofs.Batches
import Sequencer.Proofs.Chronology
import Sequencer.Proofs.Combination
import Sequencer.Proofs.Conservation
import Sequencer.Proofs.Construction
import Sequencer.Proofs.Decimal
import Sequencer.Proofs.Delivery
import Sequencer.Proofs.Descent
import Sequencer.Proofs.Documented
import Sequencer.Proofs.Events
import Sequencer.Proofs.FailureLog
import Sequencer.Proofs.Generation
import Sequencer.Proofs.Growth
import Sequencer.Proofs.Inspection
import Sequencer.Proofs.JsonFields
import Sequencer.Proofs.JsonText
import Sequencer.Proofs.JsonWords
import Sequencer.Proofs.Layout
import Sequencer.Proofs.Ledger
import Sequencer.Proofs.Linearization
import Sequencer.Proofs.LoggerTree
import Sequencer.Proofs.Merging
import Sequencer.Proofs.Nearest
import Sequencer.Proofs.Numeral
import Sequencer.Proofs.Ordering
import Sequencer.Proofs.Outcome
import Sequencer.Proofs.Overlay
import Sequencer.Proofs.Paths
import Sequencer.Proofs.Progress
import Sequencer.Proofs.Pruning
import Sequencer.Proofs.Ranges
import Sequencer.Proofs.Records
import Sequencer.Proofs.Retrying
import Sequencer.Proofs.RoundTrip
import Sequencer.Proofs.Rounding
import Sequencer.Proofs.RunLog
import Sequencer.Proofs.Schema
import Sequencer.Proofs.Segments
import Sequencer.Proofs.Serial
import Sequencer.Proofs.Sharing
import Sequencer.Proofs.Spelling
import Sequencer.Proofs.Stages
import Sequencer.Proofs.StampReading
import Sequencer.Proofs.Stamps
import Sequencer.Proofs.Stopping
import Sequencer.Proofs.Summaries
import Sequencer.Proofs.TimeOrder
import Sequencer.Proofs.Turns
import Sequencer.Proofs.Unanswered
import Sequencer.Proofs.Uniqueness
import Sequencer.Proofs.Values
import Sequencer.Proofs.Workers
import Sequencer.Random.Twister
import Sequencer.Run.Generate
import Sequencer.Run.Report
import Sequencer.Run.Trace
import Sequencer.Text.CaseMap
import Sequencer.Text.Digit
import Sequencer.Text.Integer
import Sequencer.Text.Printable
import Sequencer.Value
import Sequencer.Yaml.Cursor
import Sequencer.Yaml.Document
import Sequencer.Yaml.Failure
import Sequencer.Yaml.Graph
import Sequencer.Yaml.ScalarText
import Sequencer.Yaml.ScalarValue
import Sequencer.Yaml.Tag
import Sequencer.Yaml.Token
