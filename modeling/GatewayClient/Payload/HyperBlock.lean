import GatewayClient.Payload.Reading

/-!
# Block payloads

A hyperblock joins the blocks of all shards that belong together.
-/

set_option autoImplicit false

namespace GatewayClient

/-- A block of all shards. -/
structure HyperBlock where
  nonce : Number
  round : Number
  epoch : Number
  hash : Text
  prevBlockHash : Text
  numTxs : Number
  timestamp : Number
  shardBlocks : List Json := []
  transactions : List Json := []
  raw : Json.Fields := []

/-- Read a block. -/
def HyperBlock.decode? (block : Json.Fields) : Option HyperBlock := do
  return {
    nonce := ← block.number? "nonce"
    round := ← block.number? "round"
    epoch := ← block.number? "epoch"
    hash := ← block.text? "hash"
    prevBlockHash := ← block.text? "prevBlockHash"
    numTxs := ← block.number? "numTxs"
    timestamp := ← block.number? "timestamp"
    shardBlocks := ← block.items? "shardBlocks"
    transactions := ← block.items? "transactions"
    raw := block }

end GatewayClient
