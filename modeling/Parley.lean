import Parley.Assistant
import Parley.Awaiting
import Parley.Base64
import Parley.CommandLine.Chat
import Parley.CommandLine.Demo
import Parley.CommandLine.Home
import Parley.CommandLine.Options
import Parley.CommandLine.Program
import Parley.CommandLine.Prompt
import Parley.Content
import Parley.Decimal.Exact
import Parley.Decimal.Shortest
import Parley.Decimal.Written
import Parley.Dialogue
import Parley.Environment
import Parley.Exchange
import Parley.Extraction.Arguments
import Parley.Extraction.Binding
import Parley.Extraction.Mention
import Parley.Extraction.Payload
import Parley.Extraction.Quoting
import Parley.Extraction.Search
import Parley.Failure
import Parley.Files
import Parley.Journal
import Parley.Json.Basic
import Parley.Json.Decoding
import Parley.Json.Literal
import Parley.Json.Reader
import Parley.Json.Units
import Parley.Json.Writer
import Parley.Main
import Parley.Network
import Parley.Number
import Parley.Proofs.Exchange.Commit
import Parley.Proofs.Exchange.Course
import Parley.Proofs.Invocation
import Parley.Reply
import Parley.Settings
import Parley.Table
import Parley.Text.Blank
import Parley.Text.Digit
import Parley.Text.Fence
import Parley.Text.Identifier
import Parley.Text.Lines
import Parley.Text.Margin
import Parley.Text.Numeral
import Parley.Text.Printable
import Parley.Text.Quoted
import Parley.Text.Search
import Parley.Text.Word
import Parley.Tool.Call
import Parley.Tool.Declaration
import Parley.Tool.Header
import Parley.Tool.Spec
import Parley.Toolbox
import Parley.Turn
import Parley.Usage
import Parley.Vendor.Adapter
import Parley.Vendor.Catalogue
import Parley.Vendor.Chat
import Parley.Vendor.Claude
import Parley.Vendor.Complaint
import Parley.Vendor.Conversation
import Parley.Vendor.Gemini
import Parley.Vendor.Shape
import Parley.Proofs.Exchange.Protocol
import Parley.Proofs.Failing
import Parley.Proofs.Vendor.Counting
import Parley.Proofs.Vendor.Delivery
import Parley.Proofs.Extraction.Bounds
import Parley.Proofs.Exchange.Escape
import Parley.Proofs.Extraction.Placement
import Parley.Proofs.Exchange.Running
import Parley.Proofs.Vendor.Stopping
import Parley.Proofs.Exchange.Rejection
import Parley.Proofs.Extraction.Scanning
import Parley.Proofs.Extraction.TextCalls
import Parley.Proofs.Json.Blanks
import Parley.Proofs.Vendor.Utterance
import Parley.Proofs.Json.Roundtrip
import Parley.Proofs.Exchange.Interchange
import Parley.Proofs.Extraction.Braces
import Parley.Proofs.Extraction.JsonCalls
import Parley.Proofs.Extraction.Settling
import Parley.Proofs.Exchange.Executable
import Parley.Proofs.Tokens
import Parley.Proofs.Vendor.Tokens
import Parley.Proofs.Exchange.Billing
import Parley.Proofs.Exchange.Accounting
import Parley.Proofs.Exchange.Growth
import Parley.Proofs.Vendor.Transcript
import Parley.Proofs.Tool.Arity
import Parley.Proofs.Vendor.Credential
import Parley.Proofs.Exchange.Secrecy
import Parley.Proofs.Text.Lines
import Parley.Proofs.Text.Trimming
import Parley.Proofs.Tool.Wording
import Parley.Proofs.Tool.Roundtrip
import Parley.Proofs.Vendor.Typing
import Parley.Proofs.Extraction.Keywords
import Parley.Proofs.Tool.Sequence
import Parley.Proofs.Registration
import Parley.Proofs.CommandLine.Listing
import Parley.Proofs.Vendor.Streaming
import Parley.Proofs.Vendor.Portions
import Parley.Proofs.Vendor.Complaining
import Parley.Proofs.Json.Depth
import Parley.Proofs.Vendor.Refusal
import Parley.Proofs.Extraction.Arguments
import Parley.Proofs.Extraction.Offering
import Parley.Proofs.Environment.Loading
import Parley.Proofs.Settings.Sources
import Parley.Proofs.Environment.Additions
import Parley.Proofs.Base64
import Parley.Proofs.Text.Fences
import Parley.Proofs.Vendor.Answers
import Parley.Proofs.CommandLine.Prompts
import Parley.Proofs.CommandLine.Statistics
import Parley.Proofs.Extraction.Pieces
import Parley.Proofs.Extraction.Nesting
import Parley.Proofs.Operations
import Parley.Proofs.Json.Overflow
import Parley.Proofs.Extraction.WrittenCalls
