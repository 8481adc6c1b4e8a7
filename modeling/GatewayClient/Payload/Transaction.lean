import GatewayClient.Payload.Reading
import GatewayClient.Transaction.Status

/-!
# Transaction payloads

A transaction as the node reports it, and what one would cost. Logs and contract results are
passed on as they are.
-/

set_option autoImplicit false

namespace GatewayClient

/-- A transaction as the node reports it. `status` is the meaning of the node's `rawStatus`. -/
structure TransactionOnNetwork where
  hash : Text
  sender : Text
  receiver : Text
  nonce : Number
  value : Text
  status : TransactionStatus
  rawStatus : Text
  data : Option Text := none
  gasLimit : Option Number := none
  gasPrice : Option Number := none
  blockNonce : Option Number := none
  blockHash : Option Text := none
  round : Option Number := none
  epoch : Option Number := none
  logs : Option Json.Fields := none
  smartContractResults : List Json := []
  raw : Json.Fields := []

namespace TransactionOnNetwork

/-- Read a transaction. One that does not name its hash has the one that was asked for. -/
def decode? (tx : Json.Fields) (hash : Text) (table : StatusTable) :
    Option TransactionOnNetwork := do
  let rawStatus ← tx.text? "status"
  return {
    hash := (← tx.filled? "hash").getD hash
    sender := ← tx.text? "sender"
    receiver := ← tx.text? "receiver"
    nonce := ← tx.number? "nonce"
    value := ← tx.text? "value"
    status := table.classify rawStatus
    rawStatus
    data := ← tx.filled? "data"
    gasLimit := ← tx.optional? "gasLimit" Json.number?
    gasPrice := ← tx.optional? "gasPrice" Json.number?
    blockNonce := ← tx.optional? "blockNonce" Json.number?
    blockHash := ← tx.filled? "blockHash"
    round := ← tx.optional? "round" Json.number?
    epoch := ← tx.optional? "epoch" Json.number?
    logs := ← tx.optional? "logs" Json.fields?
    smartContractResults := ← tx.items? "smartContractResults"
    raw := tx }

/-- The transaction has reached its final state. -/
def isTerminal (tx : TransactionOnNetwork) : Bool := tx.status.isTerminal

end TransactionOnNetwork

/-- What a transaction would cost. -/
structure TransactionCost where
  gasUnits : Number
  returnMessage : Text := ""

/-- Read a cost. -/
def TransactionCost.decode? (data : Json.Fields) : Option TransactionCost := do
  return {
    gasUnits := ← data.number? "txGasUnits"
    returnMessage := (← data.optional? "returnMessage" Json.text?).getD "" }

/-- The answer to a batch of transactions: how many the node says it sent, and for each request
its hash, or nothing where the node did not take it. -/
structure BatchReceipt where
  reported : Number
  hashes : List (Option Text)

namespace BatchReceipt

/-- Read the answer to a batch of `count` requests. Hashes come under the request's position. -/
def decode? (data : Json.Fields) (count : Nat) : Option BatchReceipt := do
  let hashes ← data.object? "txsHashes"
  return {
    reported := ← data.number? "numOfSentTxs"
    hashes := ← (List.range count).mapM fun i => hashes.optional? (toString i : String) Json.text? }

/-- How many requests have a hash. -/
def returned (r : BatchReceipt) : Nat := (r.hashes.filter (·.isSome)).length

/-- The node's own count is the number of hashes. -/
def isConsistent (r : BatchReceipt) : Bool :=
  match r.reported with
  | .int n => n == r.returned
  | .real x => x == Float.ofNat r.returned

end BatchReceipt
end GatewayClient
