import GatewayClient.Client.Basic
import GatewayClient.Payload.Transaction
import GatewayClient.Schema.Payload
import GatewayClient.Transaction.Request

/-!
# Sending transactions

Sending makes exactly one request and is never repeated: the caller, who knows the nonce, decides
what to do about a failure.
-/

set_option autoImplicit false

namespace GatewayClient.Client

variable {τ : Type} [TimeScale τ]

/-- Make a call that must not be repeated. -/
def perform (c : Client τ) (op : Operation) (values : PathValues) (body : Option Bytes)
    (watching : Bool) : Action τ Json.Fields :=
  c.call op values [] body false { watching }

/-- Send a transaction; the result is its hash. -/
def sendTransaction (c : Client τ) (request : TransactionRequest) (watching : Bool) :
    Action τ Text := do
  let data ← c.perform .sendTransaction [] (some request.payload) watching
  validate Schema.transactionHash "send transaction" (.obj data)
  Action.expect "send transaction" (data.text? "txHash")

/-- Send several transactions at once; the result is the hash of each one, where the node took
it. -/
def sendTransactions (c : Client τ) (requests : List TransactionRequest) (watching : Bool) :
    Action τ (List (Option Text)) := do
  if requests.isEmpty then Action.refuse (.empty "requests")
  else
    let body := TransactionRequest.batch requests
    let data ← c.perform .sendTransactions [] (some body) watching
    validate Schema.transactionHashes "send transactions" (.obj data)
    let receipt ← Action.expect "send transactions"
      (BatchReceipt.decode? data requests.length)
    if !receipt.isConsistent then
      Action.warn (.hashCount receipt.reported receipt.returned)
    return receipt.hashes

end GatewayClient.Client
