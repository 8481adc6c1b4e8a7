import GatewayClient.Json.Display
import GatewayClient.Payload.Reading

/-!
# Network payloads

Parameters and metrics of a whole network. Each value keeps `raw`, the object that it was read
from, so that nothing a newer node says is lost.
-/

set_option autoImplicit false

namespace GatewayClient

/-- Static parameters of a network, and its epoch and round when they were asked for. -/
structure NetworkConfig where
  chainId : Text
  minGasPrice : Number
  minGasLimit : Number
  gasPerDataByte : Number
  minTransactionVersion : Number
  roundDuration : Number
  numShards : Number
  denomination : Number
  currentEpoch : Number
  currentRound : Number
  raw : Json.Fields := []

/-- Read the parameters from a network's configuration and its status. -/
def NetworkConfig.decode? (config status : Json.Fields) : Option NetworkConfig := do
  return {
    chainId := ← config.text? "erd_chain_id"
    minGasPrice := ← config.number? "erd_min_gas_price"
    minGasLimit := ← config.number? "erd_min_gas_limit"
    gasPerDataByte := ← config.number? "erd_gas_per_data_byte"
    minTransactionVersion := ← config.number? "erd_min_transaction_version"
    roundDuration := ← config.number? "erd_round_duration"
    numShards := ← config.number? "erd_num_shards_without_meta"
    denomination := ← config.number? "erd_denomination"
    currentEpoch := ← status.number? "erd_epoch_number"
    currentRound := ← status.number? "erd_current_round"
    raw := config }

/-- Economic metrics of a network. -/
structure NetworkEconomics where
  totalSupply : Text
  epoch : Number
  totalFees : Option Text := none
  devRewards : Option Text := none
  totalBaseStakedValue : Option Text := none
  totalTopUpValue : Option Text := none
  inflation : Option Text := none
  raw : Json.Fields := []

/-- The text of a metric that may be missing or null. -/
def NetworkEconomics.metric (metrics : Json.Fields) (key : Text) : Option Text :=
  match metrics.get? key with
  | none | some .null => none
  | some value => some value.asText

/-- Read the metrics. -/
def NetworkEconomics.decode? (metrics : Json.Fields) : Option NetworkEconomics := do
  return {
    totalSupply := ← metrics.text? "erd_total_supply"
    epoch := ← metrics.number? "erd_epoch_for_economics_data"
    totalFees := metric metrics "erd_total_fees"
    devRewards := metric metrics "erd_dev_rewards"
    totalBaseStakedValue := metric metrics "erd_total_base_staked_value"
    totalTopUpValue := metric metrics "erd_total_top_up_value"
    inflation := metric metrics "erd_inflation"
    raw := metrics }

end GatewayClient
