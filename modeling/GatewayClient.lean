import GatewayClient.Text.Blank
import GatewayClient.Text.Digit
import GatewayClient.Text.LowerCase
import GatewayClient.Text.Printable
import GatewayClient.Text.Quoted
import GatewayClient.Text.Mention
import GatewayClient.Bytes.Wide
import GatewayClient.Decimal.Fixed
import GatewayClient.Decimal.Literal
import GatewayClient.Decimal.Shortest
import GatewayClient.Json.Encoding
import GatewayClient.Json.Printer
import GatewayClient.Json.Display
import GatewayClient.Percent
import GatewayClient.Time.Exact
import GatewayClient.Time.Seconds
import GatewayClient.Envelope
import GatewayClient.Endpoint.Catalog
import GatewayClient.Failure
import GatewayClient.Retry.Policy
import GatewayClient.Config.Environment
import GatewayClient.Transaction.Status
import GatewayClient.Transaction.Request
import GatewayClient.Payload.VmQuery
import GatewayClient.Schema.Basic
import GatewayClient.Schema.Payload
import GatewayClient.Payload.Account
import GatewayClient.Payload.HyperBlock
import GatewayClient.Payload.Transaction
import GatewayClient.Program.Basic
import GatewayClient.Client.Reads
import GatewayClient.Client.Broadcast
import GatewayClient.Poll.Batch
import GatewayClient.Simulator
import GatewayClient.Command
import GatewayClient.Program.Script
import GatewayClient.Client.Connection
import GatewayClient.Proofs.Program.Traces
import GatewayClient.Proofs.Client.RetryLaw
import GatewayClient.Proofs.Program.Ensures
import GatewayClient.Proofs.Schema.Decoding
import GatewayClient.Proofs.Client.Requests
import GatewayClient.Proofs.Client.Reads
import GatewayClient.Proofs.Client.Writes
import GatewayClient.Proofs.Poll.Behaviour
import GatewayClient.Proofs.Client.Commands
import GatewayClient.Proofs.Session
import GatewayClient.Proofs.Poll.Query
import GatewayClient.Proofs.Poll.Rounds
import GatewayClient.Proofs.Poll.Law
import GatewayClient.Proofs.Overflow
import GatewayClient.Proofs.Client.Composition
import GatewayClient.Proofs.Program.Heeding
import GatewayClient.Proofs.Client.Cancelling
import GatewayClient.Proofs.Poll.Cancelling
import GatewayClient.Proofs.Cancellation
import GatewayClient.Proofs.Answers
import GatewayClient.Proofs.Client.Attempts
import GatewayClient.Proofs.Poll.Steps
import GatewayClient.Proofs.Poll.Agreement
import GatewayClient.Proofs.Refusals
import GatewayClient.Proofs.Retry.Budget
import GatewayClient.Proofs.Program.Timing
import GatewayClient.Proofs.Client.Deadline
import GatewayClient.Proofs.Deadlines
import GatewayClient.Proofs.Accounting
import GatewayClient.Proofs.Bytes.Utf8
import GatewayClient.Proofs.Endpoint.DotSegments
import GatewayClient.Proofs.Percent
import GatewayClient.Proofs.Endpoint.Paths
import GatewayClient.Proofs.Isolation
import GatewayClient.Proofs.RequestLine
import GatewayClient.Proofs.Program.Pacing
import GatewayClient.Proofs.Client.Pacing
import GatewayClient.Proofs.Poll.Pacing
import GatewayClient.Proofs.Waiting
import GatewayClient.Proofs.Double.Rounding
import GatewayClient.Proofs.Double.Packing
import GatewayClient.Proofs.Double.Order
import GatewayClient.Proofs.Double.Settling
import GatewayClient.Proofs.Double.Arithmetic
import GatewayClient.Proofs.Retry.Finite
import GatewayClient.Proofs.Endless
import GatewayClient.Proofs.Program.Mirrors
import GatewayClient.Proofs.Payloads
import GatewayClient.Proofs.Client.Checks
import GatewayClient.Proofs.Shapes
import GatewayClient.Proofs.Text.Mention
import GatewayClient.Proofs.Envelope.Reported
import GatewayClient.Proofs.NotFound
import GatewayClient.Proofs.Double.Whole
import GatewayClient.Proofs.Client.Results
import GatewayClient.Proofs.Schema.Leaves
import GatewayClient.Proofs.Integers
import GatewayClient.Proofs.Poll.Results
import GatewayClient.Proofs.Amounts
import GatewayClient.Proofs.Text.LowerCase
import GatewayClient.Proofs.Transaction.Status
import GatewayClient.Proofs.Endpoint.Rerouting
import GatewayClient.Proofs.Batch
import GatewayClient.Proofs.Bodies
import GatewayClient.Proofs.Retry.Backoff
import GatewayClient.Proofs.Double.NotANumber
import GatewayClient.Proofs.Retry.Undefined
import GatewayClient.Proofs.Client.Conversation
import GatewayClient.Proofs.Confirmation
import GatewayClient.Proofs.Program.Interleaving
import GatewayClient.Proofs.Poll.Concurrent
import GatewayClient.Proofs.Config.Validity
import GatewayClient.Proofs.Program.Relabelling
import GatewayClient.Proofs.Opacity
import GatewayClient.Proofs.Schema.Growth
import GatewayClient.Proofs.Schema.Records
import GatewayClient.Proofs.Client.Tolerance
import GatewayClient.Proofs.Compatibility
