import PltKeeper.Analysis.Diagnostic
import PltKeeper.Analysis.Request
import PltKeeper.Application.Directory
import PltKeeper.Application.Manifest
import PltKeeper.Application.Project
import PltKeeper.Application.Registry
import PltKeeper.Application.Resolver
import PltKeeper.Backend.Basic
import PltKeeper.Backend.Dialyzer
import PltKeeper.Backend.Dialyzer.Command
import PltKeeper.Backend.Dialyzer.Output
import PltKeeper.Backend.Listing
import PltKeeper.Command.Analyze
import PltKeeper.Command.Arguments
import PltKeeper.Command.Crash
import PltKeeper.Command.ExitCode
import PltKeeper.Command.Info
import PltKeeper.Command.Line
import PltKeeper.Command.Machine
import PltKeeper.Config.Coercion
import PltKeeper.Config.Layers
import PltKeeper.Console.Layout
import PltKeeper.Console.Literal
import PltKeeper.Console.Markup
import PltKeeper.Console.Message
import PltKeeper.Console.Style
import PltKeeper.Decimal.Binary64
import PltKeeper.Decimal.Shortest
import PltKeeper.Failure
import PltKeeper.FileSet.Basic
import PltKeeper.FileSet.Delta
import PltKeeper.Json.Access
import PltKeeper.Json.Printer
import PltKeeper.Json.Reader
import PltKeeper.Json.Shape
import PltKeeper.Json.Value
import PltKeeper.Log.Line
import PltKeeper.Log.Record
import PltKeeper.Log.Sinks
import PltKeeper.Main
import PltKeeper.Otp.Runtime
import PltKeeper.Path.Basic
import PltKeeper.Path.Canonical
import PltKeeper.Path.Home
import PltKeeper.Plt.Keeper
import PltKeeper.Plt.Maintenance
import PltKeeper.Plt.Place
import PltKeeper.Rehearsal
import PltKeeper.Run.Job
import PltKeeper.Run.Outcome
import PltKeeper.Run.Settings
import PltKeeper.Session
import PltKeeper.System.Errno
import PltKeeper.System.Process
import PltKeeper.System.SystemError
import PltKeeper.Text.Blank
import PltKeeper.Text.CellWidth
import PltKeeper.Text.CodeRange
import PltKeeper.Text.Digit
import PltKeeper.Text.LetterCase
import PltKeeper.Text.Likeness
import PltKeeper.Text.LowerCase
import PltKeeper.Text.Numeral
import PltKeeper.Text.Printable
import PltKeeper.Text.Quoted
import PltKeeper.Text.Template
import PltKeeper.Text.Utf8
import PltKeeper.Text.Word
import PltKeeper.ToolError
import PltKeeper.Tree.Access
import PltKeeper.Tree.Basic
import PltKeeper.Proofs.Tree.Changes
import PltKeeper.Proofs.FileSet.Keys
import PltKeeper.Proofs.Ending
import PltKeeper.Proofs.Plt.Names
import PltKeeper.Proofs.Application.Resolution
import PltKeeper.Proofs.Backend.Exact
import PltKeeper.Proofs.Plt.Follows
import PltKeeper.Proofs.Plt.Upkeep
import PltKeeper.Proofs.Run.Ends
import PltKeeper.Proofs.Run.Plan
import PltKeeper.Proofs.Run.Maintenance
import PltKeeper.Proofs.Run.Contents
import PltKeeper.Proofs.Run.Requests
import PltKeeper.Proofs.Plt.Service
import PltKeeper.Proofs.Run.Restart
import PltKeeper.Proofs.Plt.Tally
import PltKeeper.Proofs.Run.Accounting
import PltKeeper.Proofs.SideBySide
import PltKeeper.Proofs.Run.Abreast
import PltKeeper.Proofs.Backend.Mirrors
import PltKeeper.Proofs.Run.Mirrored
import PltKeeper.Proofs.Run.Suppression
import PltKeeper.Proofs.Tree.Agreement
import PltKeeper.Proofs.Run.Steering
import PltKeeper.Proofs.Tree.Places
import PltKeeper.Proofs.Backend.Watched
import PltKeeper.Proofs.Run.Traces
import PltKeeper.Proofs.Run.History
import PltKeeper.Proofs.Run.Rerun
import PltKeeper.Proofs.Text.Lines
import PltKeeper.Proofs.Text.Numeral
import PltKeeper.Proofs.Backend.Dialyzer.Transcript
import PltKeeper.Proofs.Traversal
import PltKeeper.Proofs.Application.Objects
import PltKeeper.Proofs.Backend.Dialyzer.Listing
import PltKeeper.Proofs.Tree.Refusals
import PltKeeper.Proofs.Application.Versions
import PltKeeper.Proofs.Run.Outcomes
import PltKeeper.Proofs.Run.EarlyFailures
import PltKeeper.Proofs.Run.Conduct
import PltKeeper.Proofs.Run.Records
import PltKeeper.Proofs.Run.FreshRun
import PltKeeper.Proofs.Run.Declarations
import PltKeeper.Proofs.Json.Members
import PltKeeper.Proofs.Json.Scanning
import PltKeeper.Proofs.Json.Grammar
import PltKeeper.Proofs.Config.Merging
import PltKeeper.Proofs.Config.Layering
import PltKeeper.Proofs.Json.Limits
import PltKeeper.Proofs.Config.FileFaults
import PltKeeper.Proofs.Config.Typing
import PltKeeper.Proofs.Plt.Locations
import PltKeeper.Proofs.Undisturbed
import PltKeeper.Proofs.Backend.Dialyzer.Launches
import PltKeeper.Proofs.Run.Interrupts
import PltKeeper.Proofs.Command.Interrupts
import PltKeeper.Proofs.Command.ExitCodes
import PltKeeper.Proofs.Backend.Failures
import PltKeeper.Proofs.Application.Separation
import PltKeeper.Proofs.Command.Summaries
import PltKeeper.Proofs.Console.Layout
import PltKeeper.Proofs.Command.Messages
import PltKeeper.Proofs.Application.Ranking
import PltKeeper.Proofs.Application.Precedence
import PltKeeper.Proofs.Run.Scopes
import PltKeeper.Proofs.Plt.Syncing
import PltKeeper.Proofs.Backend.Dialyzer.Idle
import PltKeeper.Proofs.Command.Crashes
import PltKeeper.Proofs.Command.Setup
import PltKeeper.Proofs.Command.Information
import PltKeeper.Proofs.FileSet.Partition
import PltKeeper.Proofs.Plt.Reports
import PltKeeper.Proofs.Application.Manifest
import PltKeeper.Proofs.Backend.Dialyzer.Counting
import PltKeeper.Proofs.Plt.WarningLines
import PltKeeper.Proofs.Backend.Dialyzer.Arguments
import PltKeeper.Proofs.Backend.Dialyzer.Verdicts
import PltKeeper.Proofs.Config.Spelling
import PltKeeper.Proofs.Path.NormalForm
import PltKeeper.Proofs.Application.Naming
