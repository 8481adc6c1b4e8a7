import GatewayClient.Payload.Network
import GatewayClient.Payload.Reading

/-!
# Account and token payloads

Amounts stay the decimal texts that the node sent, so no digit of them is lost.
-/

set_option autoImplicit false

namespace GatewayClient

/-- An account as it was when it was asked for. -/
structure AccountInfo where
  address : Text
  balance : Text
  nonce : Number
  username : Option Text := none
  code : Option Text := none
  codeHash : Option Text := none
  ownerAddress : Option Text := none
  raw : Json.Fields := []

/-- Read an account. One that does not name its address has the one that was asked for. -/
def AccountInfo.decode? (account : Json.Fields) (address : Text) : Option AccountInfo := do
  return {
    address := (← account.filled? "address").getD address
    balance := ← account.text? "balance"
    nonce := ← account.number? "nonce"
    username := ← account.filled? "username"
    code := ← account.filled? "code"
    codeHash := ← account.filled? "codeHash"
    ownerAddress := ← account.filled? "ownerAddress"
    raw := account }

/-- A token. -/
structure TokenMetadata where
  identifier : Text
  name : Text
  ticker : Text
  decimals : Number
  owner : Option Text := none
  supply : Option Text := none
  raw : Json.Fields := []

/-- The part of an identifier before its first dash. -/
def TokenMetadata.tickerOf (identifier : Text) : Text :=
  ⟨identifier.points.takeWhile (· != .char '-')⟩

/-- Read a token. One that does not name its ticker has the one in its identifier. -/
def TokenMetadata.decode? (token : Json.Fields) : Option TokenMetadata := do
  let identifier ← token.text? "identifier"
  return {
    identifier
    name := ← token.text? "name"
    ticker := (← token.filled? "ticker").getD (tickerOf identifier)
    decimals := ← token.number? "decimals"
    owner := ← token.filled? "owner"
    supply := (token.get? "supply").map Json.asText
    raw := token }

/-- The fields that a new transaction of an account starts from. -/
structure TransactionArguments where
  nonce : Number
  value : Text
  sender : Text
  receiver : Text
  gasPrice : Number
  gasLimit : Number
  chainId : Text
  version : Number

/-- The first fields of a transaction that the account sends to itself. -/
def TransactionArguments.of (account : AccountInfo) (network : NetworkConfig) :
    TransactionArguments :=
  { nonce := account.nonce
    value := "0"
    sender := account.address
    receiver := account.address
    gasPrice := network.minGasPrice
    gasLimit := network.minGasLimit
    chainId := network.chainId
    version := network.minTransactionVersion }

end GatewayClient
