import GatewayClient.Schema.Basic

/-!
# Schemas of the payloads

One schema for each payload that the client reads. They name what the decoders take out of it and
leave everything else open, so that a newer node may say more.
-/

set_option autoImplicit false

namespace GatewayClient.Schema

/-- A text, or nothing. -/
def textOrNull : Schema := any [.string, .null]

/-- Static parameters of a network. -/
def networkConfig : Schema :=
  let config := object
    ["erd_chain_id", "erd_min_gas_price", "erd_min_gas_limit", "erd_gas_per_data_byte",
      "erd_min_transaction_version", "erd_round_duration", "erd_num_shards_without_meta",
      "erd_denomination"]
    [("erd_chain_id", nonEmptyText), ("erd_min_gas_price", natural),
      ("erd_min_gas_limit", natural), ("erd_gas_per_data_byte", natural),
      ("erd_min_transaction_version", natural), ("erd_round_duration", natural),
      ("erd_num_shards_without_meta", natural), ("erd_denomination", natural)]
  object ["config"] [("config", config)]

/-- Status metrics of a shard. -/
def networkStatus : Schema :=
  let status := object ["erd_current_round", "erd_epoch_number"]
    [("erd_current_round", natural), ("erd_epoch_number", natural), ("erd_nonce", natural)]
  object ["status"] [("status", status)]

/-- Economic metrics of a network. -/
def networkEconomics : Schema :=
  let metrics := object ["erd_total_supply", "erd_epoch_for_economics_data"]
    [("erd_total_supply", digitText), ("erd_epoch_for_economics_data", natural)]
  object ["metrics"] [("metrics", metrics)]

/-- An account. -/
def account : Schema :=
  let account := object ["balance", "nonce"]
    [("address", any [.string]), ("balance", digitText), ("nonce", natural),
      ("username", textOrNull), ("code", textOrNull), ("codeHash", textOrNull),
      ("ownerAddress", textOrNull)]
  object ["account"] [("account", account)]

/-- A value of an account's storage. -/
def storageValue : Schema := object ["value"] [("value", any [.string])]

/-- Token balances of an account. -/
def accountTokens : Schema := object ["dcdts"] [("dcdts", any [.object])]

/-- The hash of a transaction that was sent. -/
def transactionHash : Schema := object ["txHash"] [("txHash", nonEmptyText)]

/-- The hashes of transactions that were sent together. -/
def transactionHashes : Schema :=
  object ["numOfSentTxs", "txsHashes"]
    [("numOfSentTxs", natural), ("txsHashes", mapOf (any [.string]))]

/-- What a transaction would cost. -/
def transactionCost : Schema :=
  object ["txGasUnits"] [("txGasUnits", natural), ("returnMessage", any [.string])]

/-- A transaction. -/
def transaction : Schema :=
  let transaction := object ["sender", "receiver", "nonce", "value", "status"]
    [("hash", any [.string]), ("sender", any [.string]), ("receiver", any [.string]),
      ("nonce", natural), ("value", digitText), ("status", nonEmptyText), ("data", textOrNull),
      ("gasLimit", natural), ("gasPrice", natural), ("blockNonce", natural),
      ("blockHash", any [.string]), ("round", natural), ("epoch", natural),
      ("logs", any [.object, .null]), ("smartContractResults", any [.array, .null])]
  object ["transaction"] [("transaction", transaction)]

/-- The status of a transaction alone. -/
def transactionStatus : Schema := object ["status"] [("status", nonEmptyText)]

/-- A token. -/
def token : Schema :=
  object ["identifier", "name", "decimals"]
    [("identifier", nonEmptyText), ("name", any [.string]), ("ticker", any [.string]),
      ("owner", any [.string]), ("decimals", natural), ("supply", any [.integer, .string])]

/-- The answer to a contract query. -/
def vmQuery : Schema :=
  let data := object ["returnCode"]
    [("returnData", arrayOr [.null] (any [.string])), ("returnCode", any [.string]),
      ("returnMessage", any [.string])]
  object ["data"] [("data", data)]

/-- A block of all shards. -/
def hyperblock : Schema :=
  let block := object ["nonce", "round", "epoch", "hash", "prevBlockHash", "numTxs", "timestamp"]
    [("nonce", natural), ("round", natural), ("epoch", natural), ("hash", any [.string]),
      ("prevBlockHash", any [.string]), ("numTxs", natural), ("timestamp", natural),
      ("shardBlocks", any [.array, .null]), ("transactions", any [.array, .null])]
  object ["hyperblock"] [("hyperblock", block)]

/-- The wallets that a simulator starts with. -/
def initialWallets : Schema := object ["balanceWallets"] [("balanceWallets", any [.object])]

end GatewayClient.Schema
