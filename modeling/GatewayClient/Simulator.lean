import GatewayClient.Client.Broadcast
import GatewayClient.Client.Reads

/-!
# Chain simulators

A simulator produces blocks on demand, so a transaction can be sent and confirmed without waiting.
The controls change the simulator's state, and like a broadcast they are never repeated. They are
there only for a client that is configured for a simulator.
-/

set_option autoImplicit false

namespace GatewayClient

/-- A client of a chain simulator. -/
structure Simulator (τ : Type) [TimeScale τ] where
  client : Client τ
  isSimulator : client.config.simulator = true

namespace Simulator

variable {τ : Type} [TimeScale τ]

/-- The simulator of a client, unless the client talks to a real network. -/
def ofClient (client : Client τ) : Except ArgumentFault (Simulator τ) :=
  if h : client.config.simulator = true then .ok ⟨client, h⟩
  else .error (.realNetwork client.config.baseUrl)

/-- Produce blocks. -/
def generateBlocks (s : Simulator τ) (count : Int) (watching : Bool) : Action τ Unit := do
  if count < 1 then Action.refuse (.below "count" 1 count)
  else
    let _ ← s.client.perform .simulatorGenerateBlocks [("count", .int count)] none watching

/-- Produce blocks until a transaction is processed. -/
def generateBlocksUntilTransactionProcessed (s : Simulator τ) (hash : String) (watching : Bool) :
    Action τ Unit := do
  Client.require "tx_hash" hash
  let _ ← s.client.perform .simulatorGenerateUntilTx [("hash", .text hash)] none watching

/-- Produce blocks until an epoch is reached. -/
def generateBlocksUntilEpochReached (s : Simulator τ) (epoch : Int) (watching : Bool) :
    Action τ Unit := do
  if epoch < 0 then Action.refuse (.below "epoch" 0 epoch)
  else
    let _ ← s.client.perform .simulatorGenerateUntilEpoch [("epoch", .int epoch)] none watching

/-- Overwrite the state of accounts. -/
def setState (s : Simulator τ) (accounts : List Json.Fields) (watching : Bool) :
    Action τ Unit := do
  if accounts.isEmpty then Action.refuse (.empty "accounts")
  else match (Json.arr (accounts.map .obj)).compact? with
    | some text =>
      let _ ← s.client.perform .simulatorSetState [] (some (Bytes.ofText text)) watching
    | none => Action.refuse .tooManyDigits

/-- The wallets that the simulator started with. -/
def getInitialWallets (s : Simulator τ) (o : CallOptions τ) : Action τ Json.Fields := do
  let data ← s.client.read .simulatorInitialWallets [] o
  Client.validate Schema.initialWallets "initial wallets" (.obj data)
  return data

/-- Send a transaction, produce blocks, and read the transaction once. It may still be pending
then. -/
def sendAndConfirm (s : Simulator τ) (request : TransactionRequest) (blocks : Int)
    (withResults watching : Bool) : Action τ TransactionOnNetwork := do
  let hash ← s.client.sendTransaction request watching
  s.generateBlocks blocks watching
  let tx ← s.client.getTransaction hash withResults { policy := some .single, watching }
  if !tx.isTerminal then Action.warn (.stillPending hash tx.rawStatus blocks)
  return tx

end Simulator
end GatewayClient
