import Launcher.Arith.Display
import Launcher.Arith.Expr
import Launcher.Arith.Parser
import Launcher.Arith.Token
import Launcher.Clipboard
import Launcher.Color.Basic
import Launcher.Color.Literal
import Launcher.Color.Scalar
import Launcher.Command.Action
import Launcher.Command.Basic
import Launcher.Command.BuiltIn
import Launcher.CommandLine
import Launcher.Currency.Amount
import Launcher.Currency.Desk
import Launcher.Currency.Rates
import Launcher.Currency.Requests
import Launcher.Currency.Table
import Launcher.Currency.Web
import Launcher.Decimal.Binary64
import Launcher.Decimal.Digits
import Launcher.Decimal.Fixed
import Launcher.Decimal.Reader
import Launcher.Decimal.Shortest
import Launcher.Digest.Block
import Launcher.Digest.Md5
import Launcher.Digest.Sha256
import Launcher.Discovery.Scan
import Launcher.Discovery.Source
import Launcher.Files
import Launcher.History
import Launcher.HistoryFile
import Launcher.Hit
import Launcher.Intent
import Launcher.Interpret
import Launcher.Item
import Launcher.Json.Document
import Launcher.Json.Fields
import Launcher.Json.Numeral
import Launcher.Json.Reader
import Launcher.Json.Value
import Launcher.Launch
import Launcher.Log
import Launcher.Main
import Launcher.Match.Basic
import Launcher.Match.Candidates
import Launcher.Measure.Basic
import Launcher.Measure.Table
import Launcher.Program
import Launcher.Proofs.Arith.Acceptance
import Launcher.Proofs.Arith.Display
import Launcher.Proofs.Arith.Failures
import Launcher.Proofs.Arith.Grammar
import Launcher.Proofs.Arith.Misspellings
import Launcher.Proofs.Arith.Runs
import Launcher.Proofs.Arith.Spelling
import Launcher.Proofs.Arith.Tokenization
import Launcher.Proofs.Clipboard
import Launcher.Proofs.Color.Models
import Launcher.Proofs.Color.ReadBack
import Launcher.Proofs.Color.Shapes
import Launcher.Proofs.Color.Turns
import Launcher.Proofs.Command
import Launcher.Proofs.CommandLine
import Launcher.Proofs.Decimal.Digits
import Launcher.Proofs.Decimal.Doubles
import Launcher.Proofs.Decimal.Errors
import Launcher.Proofs.Decimal.Exact
import Launcher.Proofs.Decimal.Fixed
import Launcher.Proofs.Decimal.Literals
import Launcher.Proofs.Decimal.Rounding
import Launcher.Proofs.Decimal.Whole
import Launcher.Proofs.Discovery.Memory
import Launcher.Proofs.Discovery.Scans
import Launcher.Proofs.Discovery.Walks
import Launcher.Proofs.Files
import Launcher.Proofs.History
import Launcher.Proofs.Intent
import Launcher.Proofs.Intent.Blanks
import Launcher.Proofs.Intent.Phrases
import Launcher.Proofs.Json.Documents
import Launcher.Proofs.Json.OneLine
import Launcher.Proofs.Json.Scalars
import Launcher.Proofs.Log
import Launcher.Proofs.Match.Highlights
import Launcher.Proofs.Match.Offsets
import Launcher.Proofs.Match.Scores
import Launcher.Proofs.QueryBox.Events
import Launcher.Proofs.QueryBox.Inline
import Launcher.Proofs.QueryBox.Shown
import Launcher.Proofs.QueryBox.Typing
import Launcher.Proofs.Ranking.Best
import Launcher.Proofs.Ranking.Groups
import Launcher.Proofs.Rates.Amounts
import Launcher.Proofs.Rates.Answers
import Launcher.Proofs.Rates.Bureau
import Launcher.Proofs.Rates.Cache
import Launcher.Proofs.Rates.Desk
import Launcher.Proofs.Rates.LifeTimes
import Launcher.Proofs.Rates.Looks
import Launcher.Proofs.Rates.Overflow
import Launcher.Proofs.Rates.Requests
import Launcher.Proofs.Rates.SingleFlight
import Launcher.Proofs.Rates.Sound
import Launcher.Proofs.Recent
import Launcher.Proofs.Search.Actions
import Launcher.Proofs.Search.Dispatch
import Launcher.Proofs.Search.Exchanges
import Launcher.Proofs.Search.Failures
import Launcher.Proofs.Search.Frame
import Launcher.Proofs.Search.Ground
import Launcher.Proofs.Search.Provenance
import Launcher.Proofs.Search.Providers
import Launcher.Proofs.Search.Publication
import Launcher.Proofs.Search.Rest
import Launcher.Proofs.Search.Sessions
import Launcher.Proofs.Search.Settling
import Launcher.Proofs.Search.Tickets
import Launcher.Proofs.Search.Traffic
import Launcher.Proofs.Search.Unasked
import Launcher.Proofs.Search.Unbroken
import Launcher.Proofs.Search.Updates
import Launcher.Proofs.Service.Beginnings
import Launcher.Proofs.Service.Dialogues
import Launcher.Proofs.Service.Executions
import Launcher.Proofs.Service.Handling
import Launcher.Proofs.Service.Handover
import Launcher.Proofs.Service.Launches
import Launcher.Proofs.Service.Lines
import Launcher.Proofs.Service.ParamMode
import Launcher.Proofs.Service.Reachable
import Launcher.Proofs.Service.Receptions
import Launcher.Proofs.Service.Refusals
import Launcher.Proofs.Service.Requests
import Launcher.Proofs.Service.Selection
import Launcher.Proofs.Service.Tabs
import Launcher.Proofs.Settings.Hotkeys
import Launcher.Proofs.Settings.Records
import Launcher.Proofs.Settings.Rules
import Launcher.Proofs.Settings.Saved
import Launcher.Proofs.Settings.Scalars
import Launcher.Proofs.Settings.Tokens
import Launcher.Proofs.Settings.Trees
import Launcher.Proofs.Settings.Validity
import Launcher.Proofs.Settings.WebSearch
import Launcher.Proofs.Text.Escapes
import Launcher.Proofs.Text.Letters
import Launcher.Proofs.Text.Occurrences
import Launcher.Proofs.Text.Percent
import Launcher.Proofs.Text.Pieces
import Launcher.Proofs.Text.Utf8
import Launcher.Proofs.Tool
import Launcher.Proofs.Wire.Messages
import Launcher.QueryBox
import Launcher.Ranking
import Launcher.Search.Board
import Launcher.Search.Engine
import Launcher.Search.Run
import Launcher.Search.Sources
import Launcher.Search.Timeline
import Launcher.Service.Basic
import Launcher.Service.Serve
import Launcher.Service.Setup
import Launcher.Settings.Basic
import Launcher.Settings.Hotkey
import Launcher.Settings.Json5
import Launcher.Settings.Node
import Launcher.Settings.Store
import Launcher.Settings.Toml
import Launcher.Settings.Validity
import Launcher.Text.Ascii
import Launcher.Text.Base64
import Launcher.Text.Blank
import Launcher.Text.Lowercase
import Launcher.Text.Name
import Launcher.Text.Percent
import Launcher.Text.Split
import Launcher.Text.Utf8
import Launcher.Tool
import Launcher.Wire.Decode
import Launcher.Wire.Encode
import Launcher.Wire.Message
