/-!
# Operations of a gateway

The logical calls that a client can make, by name. Which request a call becomes is for the
catalog.
-/

set_option autoImplicit false

namespace GatewayClient

/-- A logical call. -/
inductive Operation where
  | networkConfig
  | networkStatus
  | networkEconomics
  | account
  | accountStorageKey
  | accountTokens
  | sendTransaction
  | sendTransactions
  | transactionCost
  | transaction
  | transactionStatus
  | token
  | vmQuery
  | hyperblockByNonce
  | hyperblockByHash
  | simulatorGenerateBlocks
  | simulatorGenerateUntilTx
  | simulatorGenerateUntilEpoch
  | simulatorSetState
  | simulatorInitialWallets
deriving DecidableEq, Repr, Inhabited

namespace Operation

/-- The name that callers and messages use. -/
def name : Operation → String
  | .networkConfig => "network_config"
  | .networkStatus => "network_status"
  | .networkEconomics => "network_economics"
  | .account => "account"
  | .accountStorageKey => "account_storage_key"
  | .accountTokens => "account_tokens"
  | .sendTransaction => "send_transaction"
  | .sendTransactions => "send_transactions"
  | .transactionCost => "transaction_cost"
  | .transaction => "transaction"
  | .transactionStatus => "transaction_status"
  | .token => "token"
  | .vmQuery => "vm_query"
  | .hyperblockByNonce => "hyperblock_by_nonce"
  | .hyperblockByHash => "hyperblock_by_hash"
  | .simulatorGenerateBlocks => "simulator_generate_blocks"
  | .simulatorGenerateUntilTx => "simulator_generate_until_tx"
  | .simulatorGenerateUntilEpoch => "simulator_generate_until_epoch"
  | .simulatorSetState => "simulator_set_state"
  | .simulatorInitialWallets => "simulator_initial_wallets"

/-- Every operation. -/
def all : List Operation :=
  [.networkConfig, .networkStatus, .networkEconomics, .account, .accountStorageKey,
    .accountTokens, .sendTransaction, .sendTransactions, .transactionCost, .transaction,
    .transactionStatus, .token, .vmQuery, .hyperblockByNonce, .hyperblockByHash,
    .simulatorGenerateBlocks, .simulatorGenerateUntilTx, .simulatorGenerateUntilEpoch,
    .simulatorSetState, .simulatorInitialWallets]

/-- The operation of a name. -/
def ofName? (name : String) : Option Operation := all.find? fun op => op.name == name

/-- The operation controls a chain simulator and exists nowhere else. -/
def simulatorOnly : Operation → Bool
  | .simulatorGenerateBlocks | .simulatorGenerateUntilTx | .simulatorGenerateUntilEpoch
  | .simulatorSetState | .simulatorInitialWallets => true
  | _ => false

end Operation
end GatewayClient
