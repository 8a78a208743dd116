import ChatGateway.Backend.Basic
import ChatGateway.Backend.Client
import ChatGateway.Backend.Polling
import ChatGateway.Backend.Run
import ChatGateway.Backend.Settle
import ChatGateway.Binding.Basic
import ChatGateway.Binding.Document
import ChatGateway.Binding.Environment
import ChatGateway.Binding.SettingsMap
import ChatGateway.Chunk
import ChatGateway.Completion
import ChatGateway.DomainName.Basic
import ChatGateway.DomainName.Direction
import ChatGateway.DomainName.Joining
import ChatGateway.DomainName.Mapping
import ChatGateway.DomainName.Mapping.Excluded
import ChatGateway.DomainName.Mapping.Expansion
import ChatGateway.DomainName.Mapping.Shift
import ChatGateway.DomainName.Mapping.Substitute
import ChatGateway.DomainName.Punycode
import ChatGateway.EventStream
import ChatGateway.Failure
import ChatGateway.FrameStream
import ChatGateway.Http.Client
import ChatGateway.Http.Exchange
import ChatGateway.Http.Host
import ChatGateway.Http.Percent
import ChatGateway.Http.Sent
import ChatGateway.Http.Url
import ChatGateway.Json.Basic
import ChatGateway.Json.Document
import ChatGateway.Json.Parser
import ChatGateway.Json.Printer
import ChatGateway.Json.Quoted
import ChatGateway.Json.ReadError
import ChatGateway.Json.Reader
import ChatGateway.Json.Record
import ChatGateway.Json.Single
import ChatGateway.Message
import ChatGateway.Number.Binary
import ChatGateway.Number.Literal
import ChatGateway.Number.Numeral
import ChatGateway.Number.Shortest
import ChatGateway.Proofs.Backend.Abandonment
import ChatGateway.Proofs.Backend.Direct
import ChatGateway.Proofs.Backend.Faithful
import ChatGateway.Proofs.Backend.Histories
import ChatGateway.Proofs.Backend.LoopEnd
import ChatGateway.Proofs.Backend.Moves
import ChatGateway.Proofs.Backend.Pace
import ChatGateway.Proofs.Backend.Polling
import ChatGateway.Proofs.Backend.Refinement
import ChatGateway.Proofs.Backend.Shutdown
import ChatGateway.Proofs.Binding.Agreement
import ChatGateway.Proofs.Binding.NormalForm
import ChatGateway.Proofs.Binding.Reading
import ChatGateway.Proofs.Binding.SettingsMap
import ChatGateway.Proofs.Binding.Soundness
import ChatGateway.Proofs.EventStream.Backlog
import ChatGateway.Proofs.EventStream.Framing
import ChatGateway.Proofs.EventStream.Pieces
import ChatGateway.Proofs.EventStream.Stages
import ChatGateway.Proofs.EventStream.Truncation
import ChatGateway.Proofs.FrameStream.Answers
import ChatGateway.Proofs.FrameStream.Lifecycle
import ChatGateway.Proofs.FrameStream.Range
import ChatGateway.Proofs.FrameStream.Reassembly
import ChatGateway.Proofs.Http.Authority
import ChatGateway.Proofs.Http.Bodies
import ChatGateway.Proofs.Http.Credentials
import ChatGateway.Proofs.Http.Deployments
import ChatGateway.Proofs.Http.Dialects
import ChatGateway.Proofs.Http.Exchanges
import ChatGateway.Proofs.Http.Numbers
import ChatGateway.Proofs.Json.Grammar
import ChatGateway.Proofs.Json.Printing
import ChatGateway.Proofs.Json.Quoting
import ChatGateway.Proofs.Json.Records
import ChatGateway.Proofs.Json.Titles
import ChatGateway.Proofs.Json.Tolerance
import ChatGateway.Proofs.Json.Values
import ChatGateway.Proofs.Number.Numerals
import ChatGateway.Proofs.Number.Range
import ChatGateway.Proofs.Number.Shortest
import ChatGateway.Proofs.ReadBack.Parts
import ChatGateway.Proofs.ReadBack.Settings
import ChatGateway.Proofs.Reply.Ranking
import ChatGateway.Proofs.Reply.Tolerance
import ChatGateway.Proofs.Service.Accounts
import ChatGateway.Proofs.Service.Requests
import ChatGateway.Proofs.Service.Runs
import ChatGateway.Proofs.Service.Streams
import ChatGateway.Proofs.Settings.Conversion
import ChatGateway.Proofs.Text.Encoding
import ChatGateway.Proofs.Text.Trimming
import ChatGateway.Provider
import ChatGateway.Reply
import ChatGateway.Request
import ChatGateway.Service
import ChatGateway.Session
import ChatGateway.Settings
import ChatGateway.Text.Base64
import ChatGateway.Text.Blank
import ChatGateway.Text.CombiningClass
import ChatGateway.Text.Composed
import ChatGateway.Text.Composite
import ChatGateway.Text.Display
import ChatGateway.Text.Lines
import ChatGateway.Text.Mark
import ChatGateway.Text.Printable
import ChatGateway.Text.Ranges
import ChatGateway.Text.Split
import ChatGateway.Text.Utf8
import ChatGateway.TokenBiases
import ChatGateway.Usage
