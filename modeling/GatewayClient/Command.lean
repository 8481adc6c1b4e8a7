import GatewayClient.Client.Broadcast
import GatewayClient.Client.Reads
import GatewayClient.Poll.Basic
import GatewayClient.Simulator

/-!
# Commands

What a client can be asked to do, as data: an operation with its arguments, indexed by the type of
its result. What holds of every operation of the client is said of every command.

Commands come in families by what may be repeated. A read follows a retry policy. A write makes
one request and is never repeated. The others put these together, or name a call directly.
-/

set_option autoImplicit false

namespace GatewayClient

/-- An operation that changes nothing, by the type of its result. -/
inductive Read : Type → Type where
  | networkConfig : Read NetworkConfig
  | networkStatus (shard : Int) : Read Json.Fields
  | networkEconomics : Read NetworkEconomics
  | account (address : String) : Read AccountInfo
  | accountStorageKey (address key : String) : Read Text
  | accountTokens (address : String) : Read Json.Fields
  | transactionArguments (address : String) (network : Option NetworkConfig) :
      Read TransactionArguments
  | transactionCost (request : TransactionRequest) : Read TransactionCost
  | transaction (hash : String) (withResults : Bool) : Read TransactionOnNetwork
  | transactionStatus (hash : String) : Read TransactionStatus
  | token (identifier : String) : Read TokenMetadata
  | vmQuery (query : VmQuery) : Read VmQueryResult
  | hyperBlockByNonce (nonce : Int) : Read HyperBlock
  | hyperBlockByHash (hash : String) : Read HyperBlock
  | latestHyperBlockNonce : Read Int
  | initialWallets : Read Json.Fields

/-- An operation that changes the chain or the simulator, by the type of its result. -/
inductive Write : Type → Type where
  | sendTransaction (request : TransactionRequest) : Write Text
  | sendTransactions (requests : List TransactionRequest) : Write (List (Option Text))
  | generateBlocks (count : Int) : Write Unit
  | generateBlocksUntilTransactionProcessed (hash : String) : Write Unit
  | generateBlocksUntilEpochReached (epoch : Int) : Write Unit
  | setState (accounts : List Json.Fields) : Write Unit

/-- An operation, by the type of its result. -/
inductive Command (τ : Type) : Type → Type 1 where
  | read {α : Type} (r : Read α) : Command τ α
  | write {α : Type} (w : Write α) : Command τ α
  /-- The logical call of a name, with the values for its path, its query and its body. -/
  | call (name : String) (values : PathValues) (query : Query) (body : Option Bytes)
      (idempotent : Bool) : Command τ Json.Fields
  | sendAndConfirm (request : TransactionRequest) (blocks : Int) (withResults : Bool) :
      Command τ TransactionOnNetwork
  | poll (hash : String) (withResults : Bool) : Command τ (PollResult τ)
  | pause (delay : τ) : Command τ Bool

variable {τ α : Type} [TimeScale τ]

/-- An action that needs a simulator; a client of a real network refuses it. -/
def Client.onSimulator (c : Client τ) (act : Simulator τ → Action τ α) : Action τ α :=
  match Simulator.ofClient c with
  | .ok s => act s
  | .error fault => Action.refuse fault

/-- What a read does. -/
def Read.run (c : Client τ) (o : CallOptions τ) : Read α → Action τ α
  | networkConfig => c.getNetworkConfig o
  | networkStatus shard => c.getNetworkStatus shard o
  | networkEconomics => c.getNetworkEconomics o
  | account address => c.getAccount address o
  | accountStorageKey address key => c.getAccountStorageKey address key o
  | accountTokens address => c.getAccountTokens address o
  | transactionArguments address network => c.getDefaultTransactionArguments address network o
  | transactionCost request => c.requestTransactionCost request o
  | transaction hash withResults => c.getTransaction hash withResults o
  | transactionStatus hash => c.getTransactionStatus hash o
  | token identifier => c.getToken identifier o
  | vmQuery query => c.executeVmQuery query o
  | hyperBlockByNonce nonce => c.getHyperBlockByNonce nonce o
  | hyperBlockByHash hash => c.getHyperBlockByHash hash o
  | latestHyperBlockNonce => c.getLatestHyperBlockNonce o
  | initialWallets => c.onSimulator fun s => s.getInitialWallets o

/-- What a write does. -/
def Write.run (c : Client τ) (watching : Bool) : Write α → Action τ α
  | sendTransaction request => c.sendTransaction request watching
  | sendTransactions requests => c.sendTransactions requests watching
  | generateBlocks count => c.onSimulator fun s => s.generateBlocks count watching
  | generateBlocksUntilTransactionProcessed hash =>
    c.onSimulator fun s => s.generateBlocksUntilTransactionProcessed hash watching
  | generateBlocksUntilEpochReached epoch =>
    c.onSimulator fun s => s.generateBlocksUntilEpochReached epoch watching
  | setState accounts => c.onSimulator fun s => s.setState accounts watching

/-- What a command does. Only reads, calls and polls follow the policy of the options; a poll
without one follows its default. -/
def Command.run (c : Client τ) (o : CallOptions τ) : Command τ α → Action τ α
  | read r => r.run c o
  | write w => w.run c o.watching
  | call name values query body idempotent => c.callNamed name values query body idempotent o
  | sendAndConfirm request blocks withResults =>
    c.onSimulator fun s => s.sendAndConfirm request blocks withResults o.watching
  | poll hash withResults =>
    Poll.run
      { client := c, policy := o.policy.getD defaultPollPolicy, hash, withResults
        watching := o.watching }
  | pause delay => Action.pause delay o.watching

end GatewayClient
