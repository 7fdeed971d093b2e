import TermBot.Actor.Cell
import TermBot.Actor.Directory
import TermBot.Actor.Mailbox
import TermBot.Actor.Message
import TermBot.Actor.System
import TermBot.Bot.Basic
import TermBot.Bot.Card
import TermBot.Bot.Command
import TermBot.Bot.Message
import TermBot.Bot.Suggest
import TermBot.Cli.Command
import TermBot.Cli.Flag
import TermBot.Cli.Program
import TermBot.Config.Basic
import TermBot.Config.Draft
import TermBot.Config.Layers
import TermBot.Config.Load
import TermBot.Config.Memory
import TermBot.Config.Reload
import TermBot.Config.Watched
import TermBot.Config.Yaml
import TermBot.Discord.Account
import TermBot.Discord.Conform
import TermBot.Discord.Inbound
import TermBot.Discord.Payload
import TermBot.Discord.Rest
import TermBot.Discord.Route
import TermBot.Discord.Schema
import TermBot.Discord.Session
import TermBot.Discord.Shape
import TermBot.Doc.Arena
import TermBot.Doc.Basic
import TermBot.Doc.Layout
import TermBot.Doc.Shapes
import TermBot.Files.Path
import TermBot.Files.Tree
import TermBot.Files.Watch
import TermBot.Json.Basic
import TermBot.Json.Fault
import TermBot.Json.Reader
import TermBot.Json.Shape
import TermBot.Json.Trees
import TermBot.Json.Views
import TermBot.Json.Writer
import TermBot.Lifecycle.Application
import TermBot.Lifecycle.Health
import TermBot.Lifecycle.Manager
import TermBot.Lifecycle.Order
import TermBot.Log
import TermBot.Main
import TermBot.Pipeline.Depth
import TermBot.Pipeline.Run
import TermBot.Pipeline.Trim
import TermBot.Render.Service
import TermBot.Render.Value
import TermBot.Scoped.Expr
import TermBot.Scoped.Printer
import TermBot.Scoped.Resolve
import TermBot.Scoped.Ty
import TermBot.Surface.Fault
import TermBot.Surface.Parser
import TermBot.Surface.Position
import TermBot.Surface.Printer
import TermBot.Surface.Term
import TermBot.Surface.Token
import TermBot.Text.Blank
import TermBot.Text.Case
import TermBot.Text.Digit
import TermBot.Text.Grapheme
import TermBot.Text.Letter
import TermBot.Text.Numeral
import TermBot.Text.Printable
import TermBot.Text.Quoted
import TermBot.Text.Ranges
import TermBot.Text.Real
import TermBot.Text.Timestamp
import TermBot.Text.Utf8
import TermBot.Text.Width
import TermBot.Typing.Checker
import TermBot.Typing.Context
import TermBot.Typing.Names
import TermBot.Yaml.Cursor
import TermBot.Yaml.Meaning
import TermBot.Yaml.Node
import TermBot.Yaml.Scalar
import TermBot.Yaml.Token
import TermBot.Proofs.Typing.Entries
import TermBot.Proofs.Typing.Types
import TermBot.Proofs.Typing.Valid
import TermBot.Proofs.Typing.Apply
import TermBot.Proofs.Typing.Extension
import TermBot.Proofs.Typing.Runs
import TermBot.Proofs.Typing.Rules
import TermBot.Proofs.Typing.Advance
import TermBot.Proofs.Typing.Frame
import TermBot.Proofs.Typing.Halting
import TermBot.Proofs.Typing.Declarative
import TermBot.Proofs.Typing.Reading
import TermBot.Proofs.Typing.Valuation
import TermBot.Proofs.Typing.Soundness
import TermBot.Proofs.Typing.Completeness
import TermBot.Proofs.Typing.Decision
import TermBot.Proofs.Typing.Generalize
import TermBot.Proofs.Typing.Inference
import TermBot.Proofs.Typing.Leads
import TermBot.Proofs.Typing.Termination
import TermBot.Proofs.Typing.Assignment
import TermBot.Proofs.Typing.InferenceSoundness
import TermBot.Proofs.Typing.Closing
import TermBot.Proofs.Typing.Reached
import TermBot.Proofs.Actor.Replies
import TermBot.Proofs.Actor.Steps
import TermBot.Proofs.Actor.Interleaving
import TermBot.Proofs.Doc.Rendering
import TermBot.Proofs.Pipeline.Reports
import TermBot.Proofs.Scoped.Resolution
import TermBot.Proofs.Surface.Grammar
import TermBot.Proofs.Surface.Productions
import TermBot.Proofs.Surface.ParserSound
import TermBot.Proofs.Surface.ParserComplete
import TermBot.Proofs.Surface.Lexing
import TermBot.Proofs.Surface.Printing
import TermBot.Proofs.Surface.RoundTrip
import TermBot.Proofs.Typing.Milner
import TermBot.Proofs.Typing.MilnerCompleteness
import TermBot.Proofs.Typing.MilnerSoundness
import TermBot.Proofs.Typing.Principal
import TermBot.Proofs.Typing.Shift
import TermBot.Proofs.Typing.ShiftedRuns
import TermBot.Proofs.Typing.Behind
import TermBot.Proofs.Typing.Shared
import TermBot.Proofs.Scoped.Alpha
import TermBot.Proofs.Typing.Alike
import TermBot.Proofs.Typing.AlikeRuns
import TermBot.Proofs.Lifecycle.Order
import TermBot.Proofs.Lifecycle.History
import TermBot.Proofs.Doc.Machine
import TermBot.Proofs.Doc.Equivalence
import TermBot.Proofs.Doc.Arenas
import TermBot.Proofs.Render.Isolation
import TermBot.Proofs.Typing.FreshNames
import TermBot.Proofs.Typing.Legible
import TermBot.Proofs.Typing.Displayed
import TermBot.Proofs.Bot.Authority
import TermBot.Proofs.Actor.Stopping
import TermBot.Proofs.Actor.Traffic
import TermBot.Proofs.Actor.Spawning
import TermBot.Proofs.Actor.Shutdown
import TermBot.Proofs.Lifecycle.Running
import TermBot.Proofs.Typing.Comparison
import TermBot.Proofs.Doc.Fitting
import TermBot.Proofs.Doc.Layouts
import TermBot.Proofs.Doc.Widths
import TermBot.Proofs.Lifecycle.Independence
import TermBot.Proofs.Actor.Queueing
import TermBot.Proofs.Text.Decoding
import TermBot.Proofs.Surface.Spans
import TermBot.Proofs.Surface.Lookahead
import TermBot.Proofs.Surface.FirstFault
import TermBot.Proofs.Actor.Waking
import TermBot.Proofs.Actor.Indexing
import TermBot.Proofs.Text.Encoding
import TermBot.Proofs.Text.Folding
import TermBot.Proofs.Bot.Prefix
import TermBot.Proofs.Bot.Presence
import TermBot.Proofs.Pipeline.Trimming
import TermBot.Proofs.Surface.Blame
import TermBot.Proofs.Surface.Diagnostics
import TermBot.Proofs.Text.Concatenation
import TermBot.Proofs.Surface.Retokening
import TermBot.Proofs.Surface.Respelling
import TermBot.Proofs.Actor.Contents
import TermBot.Proofs.Render.Ticks
import TermBot.Proofs.Typing.Declared
import TermBot.Proofs.Bot.Fences
import TermBot.Proofs.Pipeline.Blocks
import TermBot.Proofs.Text.Decimals
import TermBot.Proofs.Config.Memory
import TermBot.Proofs.Config.Layering
import TermBot.Proofs.Config.Loads
import TermBot.Proofs.Config.Statuses
import TermBot.Proofs.Doc.Laws
import TermBot.Proofs.Doc.OneLine
import TermBot.Proofs.Scoped.Printers
import TermBot.Proofs.Typing.NameSearch
import TermBot.Proofs.Typing.Locals
import TermBot.Proofs.Bot.Clipping
