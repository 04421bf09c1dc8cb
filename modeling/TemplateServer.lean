import TemplateServer.Batch
import TemplateServer.Cache
import TemplateServer.CommandLine
import TemplateServer.Compiler
import TemplateServer.Compiler.Echo
import TemplateServer.Compiler.Template
import TemplateServer.Config
import TemplateServer.Decimal.Shortest
import TemplateServer.Dict
import TemplateServer.Directive
import TemplateServer.Discover
import TemplateServer.Dispatch
import TemplateServer.Engine
import TemplateServer.Entry
import TemplateServer.Failure
import TemplateServer.Files.Path
import TemplateServer.Files.Tree
import TemplateServer.Files.Walk
import TemplateServer.Glob
import TemplateServer.Http.Address
import TemplateServer.Http.Front
import TemplateServer.Http.Target
import TemplateServer.Identity
import TemplateServer.Log
import TemplateServer.Main
import TemplateServer.Program
import TemplateServer.Proofs.Action
import TemplateServer.Proofs.Batch.Crew
import TemplateServer.Proofs.Batch.Exact
import TemplateServer.Proofs.Batch.Item
import TemplateServer.Proofs.Batch.Request
import TemplateServer.Proofs.Cache
import TemplateServer.Proofs.Config
import TemplateServer.Proofs.Confinement
import TemplateServer.Proofs.Conservation
import TemplateServer.Proofs.Continued
import TemplateServer.Proofs.Counters
import TemplateServer.Proofs.Depth
import TemplateServer.Proofs.Dict
import TemplateServer.Proofs.Directive
import TemplateServer.Proofs.Discover
import TemplateServer.Proofs.Dispatch
import TemplateServer.Proofs.Engine.Admissions
import TemplateServer.Proofs.Engine.Callers
import TemplateServer.Proofs.Engine.Down
import TemplateServer.Proofs.Engine.Faithful
import TemplateServer.Proofs.Engine.Lane
import TemplateServer.Proofs.Engine.Turns
import TemplateServer.Proofs.Entry.Absence
import TemplateServer.Proofs.Entry.Attempt
import TemplateServer.Proofs.Entry.Faithful
import TemplateServer.Proofs.Entry.Lane
import TemplateServer.Proofs.Entry.Marks
import TemplateServer.Proofs.Entry.Once
import TemplateServer.Proofs.Entry.Over
import TemplateServer.Proofs.Entry.Production
import TemplateServer.Proofs.Entry.Refresh
import TemplateServer.Proofs.Entry.Retry
import TemplateServer.Proofs.Entry.Rush
import TemplateServer.Proofs.Entry.Tally
import TemplateServer.Proofs.Entry.Trades
import TemplateServer.Proofs.Entry.Warm
import TemplateServer.Proofs.Erasure
import TemplateServer.Proofs.ErrorPage
import TemplateServer.Proofs.Failure
import TemplateServer.Proofs.Files.Path
import TemplateServer.Proofs.Files.Tree
import TemplateServer.Proofs.Files.Make
import TemplateServer.Proofs.Files.Walk
import TemplateServer.Proofs.Files.Write
import TemplateServer.Proofs.Http.Front
import TemplateServer.Proofs.Identity
import TemplateServer.Proofs.Isolation
import TemplateServer.Proofs.Ledger
import TemplateServer.Proofs.Life
import TemplateServer.Proofs.Looks
import TemplateServer.Proofs.Parameters
import TemplateServer.Proofs.Passage
import TemplateServer.Proofs.Production
import TemplateServer.Proofs.Recorded
import TemplateServer.Proofs.Refusals
import TemplateServer.Proofs.RenderContext
import TemplateServer.Proofs.Report
import TemplateServer.Proofs.Session
import TemplateServer.Proofs.Shelf
import TemplateServer.Proofs.Signal
import TemplateServer.Proofs.Source.Moving
import TemplateServer.Proofs.Source.Timed
import TemplateServer.Proofs.Staleness
import TemplateServer.Proofs.Teardown
import TemplateServer.Proofs.Text.Letters
import TemplateServer.Proofs.Text.Occurrence
import TemplateServer.Proofs.Text.Percent
import TemplateServer.Proofs.Text.Pieces
import TemplateServer.Proofs.Text.Utf8
import TemplateServer.Proofs.Toml.RoundTrip
import TemplateServer.Proofs.Toml.Text
import TemplateServer.Proofs.Traverse
import TemplateServer.Proofs.Warm
import TemplateServer.RenderContext
import TemplateServer.Report
import TemplateServer.Request
import TemplateServer.Resolve
import TemplateServer.Site
import TemplateServer.Source
import TemplateServer.Source.Files
import TemplateServer.Source.Memory
import TemplateServer.Source.Scripted
import TemplateServer.Template.Document
import TemplateServer.Template.Eval
import TemplateServer.Template.Expr
import TemplateServer.Template.Filter
import TemplateServer.Template.Grammar
import TemplateServer.Template.Node
import TemplateServer.Template.Number
import TemplateServer.Template.Path
import TemplateServer.Template.Piece
import TemplateServer.Template.Render
import TemplateServer.Template.Scope
import TemplateServer.Template.Value
import TemplateServer.Text.Blank
import TemplateServer.Text.Case
import TemplateServer.Text.Cased
import TemplateServer.Text.Cluster
import TemplateServer.Text.Json
import TemplateServer.Text.Percent
import TemplateServer.Text.Pieces
import TemplateServer.Text.Quoted
import TemplateServer.Text.Replace
import TemplateServer.Text.Runs
import TemplateServer.Text.Utf8
import TemplateServer.Text.Visible
import TemplateServer.Text.Word
import TemplateServer.Toml.Printer
import TemplateServer.Toml.Reader
import TemplateServer.Toml.Value
