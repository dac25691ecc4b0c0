import Agenda.Task.Filter
import Agenda.Query.Parser
import Agenda.Query.Select
import Agenda.Json.Document
import Agenda.Query.Answer
import Agenda.Insight.Activity
import Agenda.Export.Csv
import Agenda.Export.Report
import Agenda.Storage.Basic
import Agenda.Store.Action
import Agenda.Theme
import Agenda.Main
import Agenda.Config.File
import Agenda.Proofs.Query.Selection
import Agenda.Proofs.Store.Cleaning
import Agenda.Proofs.Insight.Duplicates
import Agenda.Proofs.Json.Literal
import Agenda.Proofs.Json.Token
import Agenda.Proofs.Text.Symbols
import Agenda.Proofs.Json.Document
import Agenda.Proofs.Task.Record
import Agenda.Proofs.Store.Call
import Agenda.Proofs.Store.Reload
import Agenda.Proofs.Text.Front
import Agenda.Proofs.Query.Separator
import Agenda.Proofs.Query.Cut
import Agenda.Proofs.Query.Printing
import Agenda.Proofs.Query.Comparison
import Agenda.Proofs.Query.Grammar
import Agenda.Proofs.Query.Filtering
import Agenda.Proofs.Store.Lookup
import Agenda.Proofs.Calendar.Stamp
import Agenda.Proofs.Storage.Disk
import Agenda.Proofs.Store.Backend
import Agenda.Proofs.Store.WellFormed
import Agenda.Proofs.Store.Soundness
import Agenda.Proofs.Query.Canonical
import Agenda.Proofs.Export.Table
import Agenda.Proofs.Export.Csv
import Agenda.Proofs.Storage.Folder
import Agenda.Proofs.Storage.Path
import Agenda.Proofs.Identifier
import Agenda.Proofs.Storage.Replacement
import Agenda.Proofs.Store.Outcome
import Agenda.Proofs.Store.Atomicity
import Agenda.Proofs.Storage.Interchange
import Agenda.Proofs.Query.Literal
import Agenda.Proofs.Query.Search
import Agenda.Proofs.Config.Usable
import Agenda.Proofs.Storage.Frame
import Agenda.Proofs.Cli.Frame
import Agenda.Proofs.Text.Pattern
import Agenda.Proofs.Query.FirstMatch
import Agenda.Proofs.Store.Tidying
import Agenda.Proofs.Storage.Writing
import Agenda.Proofs.Storage.Listing
import Agenda.Proofs.Cli.Designation
import Agenda.Proofs.Config.Settling
import Agenda.Proofs.Insight.Repetition
import Agenda.Proofs.Insight.Counters
import Agenda.Proofs.Number.Binary
import Agenda.Proofs.Insight.Rate
import Agenda.Proofs.Calendar.Order
import Agenda.Proofs.Calendar.Written
import Agenda.Proofs.Insight.Activity
import Agenda.Proofs.Cli.Stability
import Agenda.Proofs.Text.LetterCase
import Agenda.Proofs.Query.Spelling
import Agenda.Proofs.Calendar.Entry
import Agenda.Proofs.Cli.DueDate
import Agenda.Proofs.Number.Order
import Agenda.Proofs.Insight.Growth
import Agenda.Proofs.Cli.Chart
import Agenda.Proofs.Store.Shown
import Agenda.Proofs.Query.Partition
