import JsonRpc.Client
import JsonRpc.Manager
import JsonRpc.Main
import JsonRpc.Proofs.Json.Grammar
import JsonRpc.Proofs.Chain
import JsonRpc.Proofs.Json.Literal
import JsonRpc.Proofs.Json.Numeral
import JsonRpc.Proofs.Text.Digits
import JsonRpc.Proofs.Json.Reading
import JsonRpc.Proofs.Json.Refusal
import JsonRpc.Proofs.Binary64.Rounding
import JsonRpc.Proofs.Binary64.Shortest
import JsonRpc.Proofs.Json.NumberText
import JsonRpc.Proofs.Json.StringText
import JsonRpc.Proofs.Json.Value
import JsonRpc.Proofs.Json.ValueText
import JsonRpc.Proofs.Json.RoundTrip
import JsonRpc.Proofs.Dispatch
import JsonRpc.Proofs.Json.Bounds
import JsonRpc.Proofs.StrictReply
import JsonRpc.Proofs.Json.Portable
import JsonRpc.Proofs.Envelope.Request
import JsonRpc.Proofs.Transparency
import JsonRpc.Proofs.Name
import JsonRpc.Proofs.Entries
import JsonRpc.Proofs.Catalog
import JsonRpc.Proofs.History
import JsonRpc.Proofs.Envelope.Response
import JsonRpc.Proofs.Correlation
import JsonRpc.Proofs.Invocation
import JsonRpc.Proofs.Conversation
import JsonRpc.Proofs.Exchange
import JsonRpc.Proofs.Outcome
import JsonRpc.Proofs.Text.Utf8
import JsonRpc.Proofs.Encoding
import JsonRpc.Proofs.Json.Admission
import JsonRpc.Proofs.ParseError
import JsonRpc.Proofs.Name.Pattern
import JsonRpc.Proofs.Name.Split
import JsonRpc.Proofs.Version
import JsonRpc.Proofs.Binary64.Overflow
import JsonRpc.Proofs.Envelope.Report
import JsonRpc.Proofs.Calculator
import JsonRpc.Proofs.Arithmetic
import JsonRpc.Proofs.Presence
import JsonRpc.Proofs.Client.Action
import JsonRpc.Proofs.Client.Ownership
import JsonRpc.Proofs.Client.Connecting
import JsonRpc.Proofs.Client.Stream
import JsonRpc.Proofs.Opening
import JsonRpc.Proofs.Lifecycle
import JsonRpc.Proofs.Json.Line
import JsonRpc.Proofs.Text.Detection
import JsonRpc.Proofs.Wire
