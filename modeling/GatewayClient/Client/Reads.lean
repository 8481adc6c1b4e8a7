import GatewayClient.Client.Basic
import GatewayClient.Json.Printer
import GatewayClient.Payload.Account
import GatewayClient.Payload.HyperBlock
import GatewayClient.Payload.Transaction
import GatewayClient.Payload.VmQuery
import GatewayClient.Schema.Payload
import GatewayClient.Transaction.Request

/-!
# Reading from a gateway

The operations that change nothing. Each checks its arguments, makes its call, checks the payload
against its schema and reads it into a value.
-/

set_option autoImplicit false

namespace GatewayClient.Client

variable {τ : Type} [TimeScale τ]

/-- The shard of the metachain. -/
def metachainShard : Int := 4294967295

/-- The status metrics of a shard. -/
def getNetworkStatus (c : Client τ) (shard : Int) (o : CallOptions τ) :
    Action τ Json.Fields := do
  let data ← c.read .networkStatus [("shard", .int shard)] o
  validate Schema.networkStatus "network status" (.obj data)
  Action.expect "network status" (data.object? "status")

/-- The parameters of the network with its epoch and round, in two calls. -/
def getNetworkConfig (c : Client τ) (o : CallOptions τ) : Action τ NetworkConfig := do
  let data ← c.read .networkConfig [] o
  validate Schema.networkConfig "network config" (.obj data)
  let status ← c.getNetworkStatus metachainShard o
  Action.expect "network config"
    ((data.object? "config").bind fun config => NetworkConfig.decode? config status)

/-- The economic metrics of the network. -/
def getNetworkEconomics (c : Client τ) (o : CallOptions τ) : Action τ NetworkEconomics := do
  let data ← c.read .networkEconomics [] o
  validate Schema.networkEconomics "network economics" (.obj data)
  Action.expect "network economics" ((data.object? "metrics").bind NetworkEconomics.decode?)

/-- An account. -/
def getAccount (c : Client τ) (address : String) (o : CallOptions τ) : Action τ AccountInfo := do
  require "address" address
  let data ← c.read .account [("address", .text address)] o
  validate Schema.account "account" (.obj data)
  Action.expect "account"
    ((data.object? "account").bind fun account => AccountInfo.decode? account address)

/-- A value of an account's storage, in hexadecimal. -/
def getAccountStorageKey (c : Client τ) (address key : String) (o : CallOptions τ) :
    Action τ Text := do
  require "address" address
  require "key" key
  let data ← c.read .accountStorageKey [("address", .text address), ("key", .text key)] o
  validate Schema.storageValue "storage value" (.obj data)
  Action.expect "storage value" (data.text? "value")

/-- The token balances of an account, by identifier. -/
def getAccountTokens (c : Client τ) (address : String) (o : CallOptions τ) :
    Action τ Json.Fields := do
  require "address" address
  let data ← c.read .accountTokens [("address", .text address)] o
  validate Schema.accountTokens "account tokens" (.obj data)
  Action.expect "account tokens" (data.object? "dcdts")

/-- The first fields of a transaction of an account. The network's parameters are asked for unless
they are given. -/
def getDefaultTransactionArguments (c : Client τ) (address : String)
    (network : Option NetworkConfig) (o : CallOptions τ) : Action τ TransactionArguments := do
  let network ← match network with
    | some network => pure network
    | none => c.getNetworkConfig o
  let account ← c.getAccount address o
  return TransactionArguments.of account network

/-- What a transaction would cost. -/
def requestTransactionCost (c : Client τ) (request : TransactionRequest) (o : CallOptions τ) :
    Action τ TransactionCost := do
  let data ← c.call .transactionCost [] [] (some request.payload) true o
  validate Schema.transactionCost "transaction cost" (.obj data)
  Action.expect "transaction cost" (TransactionCost.decode? data)

/-- Report a status word that no list has. -/
def noteStatus (c : Client τ) (word : Text) : Action τ Unit :=
  if c.statusTable.knows word then pure () else Action.warn (.unknownStatus word)

/-- A transaction, on request with the results of contract calls. -/
def getTransaction (c : Client τ) (hash : Text) (withResults : Bool) (o : CallOptions τ) :
    Action τ TransactionOnNetwork := do
  require "tx_hash" hash
  let query := if withResults then [("withResults", "true")] else []
  let data ← c.call .transaction [("hash", .text hash)] query none true o
  validate Schema.transaction "transaction" (.obj data)
  let tx ← Action.expect "transaction" ((data.object? "transaction").bind fun tx =>
    TransactionOnNetwork.decode? tx hash c.statusTable)
  c.noteStatus tx.rawStatus
  return tx

/-- The status of a transaction alone. -/
def getTransactionStatus (c : Client τ) (hash : String) (o : CallOptions τ) :
    Action τ TransactionStatus := do
  require "tx_hash" hash
  let data ← c.read .transactionStatus [("hash", .text hash)] o
  validate Schema.transactionStatus "transaction status" (.obj data)
  let word ← Action.expect "transaction status" (data.text? "status")
  c.noteStatus word
  return c.statusTable.classify word

/-- A token. Its fields may stand under a key of their own. -/
def getToken (c : Client τ) (identifier : String) (o : CallOptions τ) :
    Action τ TokenMetadata := do
  require "identifier" identifier
  let data ← c.read .token [("identifier", .text identifier)] o
  let token := (data.get? "tokenData").getD (.obj data)
  validate Schema.token "token" token
  Action.expect "token" (token.fields?.bind TokenMetadata.decode?)

/-- Run a read-only contract call. -/
def executeVmQuery (c : Client τ) (query : VmQuery) (o : CallOptions τ) :
    Action τ VmQueryResult := do
  require "sc_address" query.scAddress
  require "func_name" query.funcName
  let body := Bytes.ofText (Json.obj query.toFields).compact
  let data ← c.call .vmQuery [] [] (some body) true o
  validate Schema.vmQuery "vm query" (.obj data)
  Action.expect "vm query" ((data.object? "data").bind VmQueryResult.decode?)

/-- Check and read the answer to a request for a block. -/
def readHyperBlock (data : Json.Fields) : Action τ HyperBlock := do
  validate Schema.hyperblock "hyperblock" (.obj data)
  Action.expect "hyperblock" ((data.object? "hyperblock").bind HyperBlock.decode?)

/-- The block of a nonce. -/
def getHyperBlockByNonce (c : Client τ) (nonce : Int) (o : CallOptions τ) :
    Action τ HyperBlock := do
  if nonce < 0 then Action.refuse (.below "nonce" 0 nonce)
  else readHyperBlock (← c.read .hyperblockByNonce [("nonce", .int nonce)] o)

/-- The block of a hash. -/
def getHyperBlockByHash (c : Client τ) (hash : String) (o : CallOptions τ) :
    Action τ HyperBlock := do
  require "block_hash" hash
  readHyperBlock (← c.read .hyperblockByHash [("hash", .text hash)] o)

/-- The nonce of the latest block of the metachain. Here a double is no integer. -/
def getLatestHyperBlockNonce (c : Client τ) (o : CallOptions τ) : Action τ Int := do
  let status ← c.getNetworkStatus metachainShard o
  match status.number? "erd_nonce" with
  | some (.int nonce) => return nonce
  | _ => Action.raise { kind := .decode, message := "network status has no erd_nonce" }

end GatewayClient.Client
