import Moderation.Api.Body
import Moderation.Api.Failure
import Moderation.Api.Health
import Moderation.Api.MediaType
import Moderation.Api.Service
import Moderation.Ban.Action
import Moderation.Ban.Dispatch
import Moderation.Ban.Request
import Moderation.Bus
import Moderation.Digest.Sha256
import Moderation.Event.Attribute
import Moderation.Event.Basic
import Moderation.Event.Document
import Moderation.Event.Kind
import Moderation.Event.Player
import Moderation.History
import Moderation.Ingest.Ingestor
import Moderation.Ingest.Reception
import Moderation.Ingest.Router
import Moderation.Json.Basic
import Moderation.Json.Reader
import Moderation.Json.Skip
import Moderation.Json.Token
import Moderation.Json.Writer
import Moderation.Log.Classified
import Moderation.Log.Property
import Moderation.Log.Statement
import Moderation.Log.Tag
import Moderation.Main
import Moderation.Match.Basic
import Moderation.Match.Book
import Moderation.Match.Document
import Moderation.Match.Summarizer
import Moderation.Match.Summary
import Moderation.Match.Tally
import Moderation.Net.Address
import Moderation.Notice.Document
import Moderation.Notice.Embed
import Moderation.Notice.Outbox
import Moderation.Notice.Status
import Moderation.Notice.Webhook
import Moderation.Number.Double
import Moderation.Number.Range
import Moderation.Pattern.Charset
import Moderation.Pattern.Machine
import Moderation.Pattern.Property
import Moderation.Pattern.Reader
import Moderation.Pattern.Syntax
import Moderation.Pipeline.Basic
import Moderation.Pipeline.Run
import Moderation.Pipeline.Step
import Moderation.Proofs.Api.Submission
import Moderation.Proofs.Api.Token
import Moderation.Proofs.Ban.Course
import Moderation.Proofs.Ban.Interleaving
import Moderation.Proofs.Bus.Delivery
import Moderation.Proofs.Bus.Exclusion
import Moderation.Proofs.Bus.Run
import Moderation.Proofs.Event.SteamId
import Moderation.Proofs.History
import Moderation.Proofs.Ingest.Batches
import Moderation.Proofs.Ingest.Order
import Moderation.Proofs.Ingest.Rounds
import Moderation.Proofs.Ingest.Routes
import Moderation.Proofs.Ingest.Run
import Moderation.Proofs.Ingest.Settling
import Moderation.Proofs.Log.Accounts
import Moderation.Proofs.Log.Chat
import Moderation.Proofs.Log.Encounter
import Moderation.Proofs.Log.Items
import Moderation.Proofs.Log.Line
import Moderation.Proofs.Log.Shape
import Moderation.Proofs.Log.Tag
import Moderation.Proofs.Log.Utterance
import Moderation.Proofs.Log.Values
import Moderation.Proofs.Match.Announced
import Moderation.Proofs.Match.Credits
import Moderation.Proofs.Match.Interleaving
import Moderation.Proofs.Match.Limits
import Moderation.Proofs.Match.Live
import Moderation.Proofs.Match.Passage
import Moderation.Proofs.Match.Played
import Moderation.Proofs.Match.Registry
import Moderation.Proofs.Match.Rejection
import Moderation.Proofs.Match.Reported
import Moderation.Proofs.Match.Rounds
import Moderation.Proofs.Match.Scores
import Moderation.Proofs.Match.Summary
import Moderation.Proofs.Match.Totals
import Moderation.Proofs.Notice.Complete
import Moderation.Proofs.Notice.Fields
import Moderation.Proofs.Number.Decimal
import Moderation.Proofs.Pipeline.ChatHistory
import Moderation.Proofs.Pipeline.Conveyance
import Moderation.Proofs.Pipeline.Relay
import Moderation.Proofs.Pipeline.Subscriptions
import Moderation.Proofs.Pipeline.Tasks
import Moderation.Proofs.Rcon.Command
import Moderation.Proofs.Rcon.Frame
import Moderation.Proofs.Rcon.Framing
import Moderation.Proofs.Rcon.Session
import Moderation.Proofs.Schedule
import Moderation.Proofs.Settings.Accepted
import Moderation.Proofs.Settings.Length
import Moderation.Proofs.Table
import Moderation.Proofs.Text.Blank
import Moderation.Proofs.Text.Lowercase
import Moderation.Proofs.Text.Numeral
import Moderation.Proofs.Text.Utf8
import Moderation.Proofs.Warning.Accounts
import Moderation.Proofs.Warning.Disguise
import Moderation.Proofs.Warning.Effects
import Moderation.Proofs.Warning.Filters
import Moderation.Proofs.Warning.Independence
import Moderation.Proofs.Warning.Ledger
import Moderation.Proofs.Warning.Reaction
import Moderation.Proofs.Warning.Run
import Moderation.Proofs.Warning.Sweep
import Moderation.Proofs.Warning.Window
import Moderation.Proofs.Warning.Words
import Moderation.Proofs.Worker.Chat
import Moderation.Proofs.Worker.Labour
import Moderation.Proofs.Worker.Pool
import Moderation.Proofs.Worker.Run
import Moderation.Proofs.Worker.Saving
import Moderation.Proofs.Worker.Turns
import Moderation.Queue
import Moderation.Rcon.Command
import Moderation.Rcon.Packet
import Moderation.Rcon.Session
import Moderation.Schedule
import Moderation.Services
import Moderation.Settings.Basic
import Moderation.Settings.Document
import Moderation.Settings.EnvFile
import Moderation.Settings.Length
import Moderation.Settings.Startup
import Moderation.Store.Basic
import Moderation.Store.Call
import Moderation.Store.Database
import Moderation.Store.Document
import Moderation.Table
import Moderation.Text.Affix
import Moderation.Text.Blank
import Moderation.Text.Hex
import Moderation.Text.Letter
import Moderation.Text.Lowercase
import Moderation.Text.Numeral
import Moderation.Text.Quoted
import Moderation.Text.Utf8
import Moderation.Time.Amount
import Moderation.Time.Calendar
import Moderation.Time.Instant
import Moderation.Time.Rfc3339
import Moderation.Time.Stamp
import Moderation.Unicode.Case
import Moderation.Unicode.Category
import Moderation.Unicode.Letter
import Moderation.Unicode.Property
import Moderation.Unicode.Script
import Moderation.Warning.Document
import Moderation.Warning.Engine
import Moderation.Warning.Filter
import Moderation.Warning.Tracker
import Moderation.Worker.Errand
import Moderation.Worker.Job
import Moderation.Worker.Pool
import Moderation.Worker.Shift
import Moderation.Proofs.Notice.Complete
