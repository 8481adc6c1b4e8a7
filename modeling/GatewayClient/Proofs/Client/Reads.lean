import GatewayClient.Command
import GatewayClient.Proofs.Client.Requests

/-!
# How reads behave

A read sends no transactions, and it fails only as expected: with an error of the gateway, with a
delay beyond the scale, or because it refuses its arguments. A payload that its schema lets pass is
always read.

**All reads behave** (`Read.behaves`), for all arguments and options.
-/

set_option autoImplicit false

namespace GatewayClient

variable {τ α β : Type} [TimeScale τ]

/-! ## Single routes -/

namespace Client

open GatewayClient.Action (Ensures)

variable (c : Client τ) {p : RetryPolicy τ} {valid : Prop} {R : α → Prop}

/-- To check an argument asks for nothing, and refuses only what is not valid. -/
theorem behaves_require {name : String} {value : Text} (filled : valid → value ≠ "") :
    c.Behaves p valid (require name value) fun _ => True := by
  unfold require
  split
  next empty => exact .fail fun holds => filled holds (Text.isEmpty_iff.mp empty)
  next => exact .pure trivial

/-- A read of a route asks for nothing else. It fails as expected, if valid values can be written.
-/
theorem behaves_read {op : Operation} (other : op.broadcasts = false) {values : PathValues}
    (o : CallOptions τ) (writable : valid → ∀ value ∈ values, value.2.isWritable = true) :
    c.Behaves (c.policyFor o) valid (c.read op values o) fun _ => True :=
  c.behaves_call other values [] none true o fun holds name _ =>
    PathValues.isWritable_get (writable holds) name

/-- A read whose path has no slots asks for nothing else, and fails as expected. -/
theorem behaves_read_plain {op : Operation} (other : op.broadcasts = false) (o : CallOptions τ)
    (valid : Prop) : c.Behaves (c.policyFor o) valid (c.read op [] o) fun _ => True :=
  c.behaves_read other o fun _ => List.forall_mem_nil _

/-- A read whose path holds a string asks for nothing else, and fails as expected. -/
theorem behaves_read_string {op : Operation} (other : op.broadcasts = false) {name s : String}
    (o : CallOptions τ) (valid : Prop) :
    c.Behaves (c.policyFor o) valid (c.read op [(name, .text s)] o) fun _ => True :=
  c.behaves_read other o fun _ => List.forall_mem_singleton.mpr (PathValue.isWritable_string s)

/-- An answer that is checked and then read is never unreadable, if what fits can be read. -/
theorem behaves_decoded {x : Action τ Json.Fields} {schema : Schema} {what : String}
    {decode : Json.Fields → Option α} (asks : c.Behaves p valid x fun _ => True)
    (reads : ∀ data, schema.Fits (.obj data) → ∃ a, decode data = some a ∧ R a) :
    c.Behaves p valid (do
      let data ← x
      validate schema what (.obj data)
      Action.expect what (decode data)) R := by
  refine asks.bind fun data _ => ?_
  refine (ensures_validate schema what (.obj data) fun _ => trivial).bind fun _ fits => ?_
  exact .expect (reads data fits)

theorem behaves_noteStatus (word : Text) :
    c.Behaves p valid (c.noteStatus word) fun _ => True := by
  unfold noteStatus
  split
  · exact .pure trivial
  · exact .warn trivial

/-! ## The operations of a client -/

variable (o : CallOptions τ)

/-- The number of the metachain can be written. -/
theorem isWritable_metachainShard : Decimal.isWritable metachainShard = true := by decide +kernel

/-- A status that was read has an epoch and a round. -/
theorem behaves_getNetworkStatus (shard : Int)
    (writable : valid → Decimal.isWritable shard = true) :
    c.Behaves (c.policyFor o) valid (c.getNetworkStatus shard o) fun status =>
      (∃ n, status.number? "erd_epoch_number" = some n) ∧
        ∃ n, status.number? "erd_current_round" = some n :=
  c.behaves_decoded (c.behaves_read rfl o fun holds => List.forall_mem_singleton.mpr
    (PathValue.isWritable_int.trans (writable holds))) fun _ fits => fits.status

/-- The parameters of a network are asked for by two routes without slots. -/
theorem behaves_getNetworkConfig (valid : Prop) :
    c.Behaves (c.policyFor o) valid (c.getNetworkConfig o) fun _ => True := by
  refine (c.behaves_read_plain rfl o _).bind fun data _ => ?_
  refine (ensures_validate Schema.networkConfig _ _ fun _ => trivial).bind fun _ fits => ?_
  refine (c.behaves_getNetworkStatus o metachainShard fun _ => isWritable_metachainShard).bind
    fun status ready => ?_
  obtain ⟨⟨_, epoch⟩, ⟨_, round⟩⟩ := ready
  obtain ⟨config, read⟩ := NetworkConfig.decode?_of_fits fits epoch round
  exact .expect ⟨config, read, trivial⟩

theorem behaves_getAccount (address : String) (filled : valid → address ≠ "") :
    c.Behaves (c.policyFor o) valid (c.getAccount address o) fun _ => True := by
  refine (c.behaves_require fun holds => Text.filled_coe (filled holds)).bind fun _ _ => ?_
  refine c.behaves_decoded (c.behaves_read_string rfl o valid) fun _ fits => ?_
  obtain ⟨account, read⟩ := AccountInfo.decode?_of_fits fits address
  exact ⟨account, read, trivial⟩

/-- A transaction is asked for by a hash that is there, and can stand in a path. -/
theorem behaves_getTransaction (hash : Text) (withResults : Bool) (filled : valid → hash ≠ "")
    (known : valid → hash.toString?.isSome = true) :
    c.Behaves (c.policyFor o) valid (c.getTransaction hash withResults o) fun _ => True := by
  refine (c.behaves_require filled).bind fun _ _ => ?_
  have writable : valid → ∀ value ∈ [("hash", PathValue.text hash)], value.2.isWritable = true :=
    fun holds => List.forall_mem_singleton.mpr (PathValue.isWritable_text.trans (known holds))
  refine (c.behaves_call rfl _ _ none true o fun holds name _ =>
    PathValues.isWritable_get (writable holds) name).bind fun data _ => ?_
  refine (ensures_validate Schema.transaction _ _ fun _ => trivial).bind fun _ fits => ?_
  obtain ⟨tx, read⟩ := TransactionOnNetwork.decode?_of_fits fits hash c.statusTable
  refine (Ensures.expect (R := fun _ => True) ⟨tx, read, trivial⟩).bind fun tx _ => ?_
  exact (c.behaves_noteStatus tx.rawStatus).bind fun _ _ => .pure trivial

/-- A hash with a surrogate has no place in a path, so nothing is asked for. -/
theorem getTransaction_of_unencodable {hash : Text} (filled : hash ≠ "")
    (unknown : hash.toString? = none) (withResults : Bool) :
    c.getTransaction hash withResults o = Action.fail (.unencodable hash) := by
  have asks (query : Query) : c.call .transaction [("hash", .text hash)] query none true o =
      Action.fail (.unencodable hash) :=
    c.call_of_unwritable rfl (by nofun) (PathValue.asText_of_unencodable unknown)
      (PathValue.isMissing_text filled) query none true o
  rw [getTransaction, require_of_filled filled]
  dsimp only
  rw [asks]
  rfl

/-- The arguments of a transaction are read from an account, and from the network if it is not
given. -/
theorem behaves_getDefaultTransactionArguments (address : String)
    (network : Option NetworkConfig) (filled : valid → address ≠ "") :
    c.Behaves (c.policyFor o) valid (c.getDefaultTransactionArguments address network o)
      fun _ => True := by
  have account : ∀ network : NetworkConfig, c.Behaves (c.policyFor o) valid (do
      let account ← c.getAccount address o
      return TransactionArguments.of account network) fun _ => True := by
    intro network
    exact (c.behaves_getAccount o address filled).bind fun _ _ => .pure trivial
  cases network with
  | some network => exact account network
  | none => exact (c.behaves_getNetworkConfig o valid).bind fun network _ => account network

theorem behaves_getTransactionStatus (hash : String) (filled : valid → hash ≠ "") :
    c.Behaves (c.policyFor o) valid (c.getTransactionStatus hash o) fun _ => True := by
  refine (c.behaves_require fun holds => Text.filled_coe (filled holds)).bind fun _ _ => ?_
  refine (c.behaves_read_string rfl o valid).bind fun data _ => ?_
  refine (ensures_validate Schema.transactionStatus _ _ fun _ => trivial).bind fun _ fits => ?_
  obtain ⟨word, read⟩ := fits.text_of_object "status" rfl rfl rfl
  refine (Ensures.expect (R := fun _ => True) ⟨word, read, trivial⟩).bind fun word _ => ?_
  exact (c.behaves_noteStatus word).bind fun _ _ => .pure trivial

theorem behaves_getToken (identifier : String) (filled : valid → identifier ≠ "") :
    c.Behaves (c.policyFor o) valid (c.getToken identifier o) fun _ => True := by
  refine (c.behaves_require fun holds => Text.filled_coe (filled holds)).bind fun _ _ => ?_
  refine (c.behaves_read_string rfl o valid).bind fun data _ => ?_
  refine (ensures_validate Schema.token _ _ fun _ => trivial).bind fun _ fits => ?_
  obtain ⟨metadata, read⟩ := TokenMetadata.decode?_of_fits fits
  exact .expect ⟨metadata, read, trivial⟩

/-- To read a block from a payload asks for nothing. -/
theorem behaves_readHyperBlock {x : Action τ Json.Fields}
    (asks : c.Behaves p valid x fun _ => True) :
    c.Behaves p valid (x >>= readHyperBlock) fun _ => True := by
  refine c.behaves_decoded asks fun _ fits => ?_
  obtain ⟨block, read⟩ := HyperBlock.decode?_of_fits fits
  exact ⟨block, read, trivial⟩

/-- A block is asked for by a nonce that is natural and can be written. -/
theorem behaves_getHyperBlockByNonce (nonce : Int)
    (natural : valid → 0 ≤ nonce ∧ Decimal.isWritable nonce = true) :
    c.Behaves (c.policyFor o) valid (c.getHyperBlockByNonce nonce o) fun _ => True := by
  unfold getHyperBlockByNonce
  split
  next negative => exact .fail fun holds => Int.not_le.mpr negative (natural holds).1
  next =>
    exact c.behaves_readHyperBlock (c.behaves_read rfl o fun holds =>
      List.forall_mem_singleton.mpr (PathValue.isWritable_int.trans (natural holds).2))

/-- The last check is not one of a schema: a status may lack a nonce. -/
theorem behaves_getLatestHyperBlockNonce (valid : Prop) :
    c.Behaves (c.policyFor o) valid (c.getLatestHyperBlockNonce o) fun _ => True := by
  refine (c.behaves_getNetworkStatus o metachainShard fun _ => isWritable_metachainShard).bind
    fun status _ => ?_
  split
  · exact .pure trivial
  · exact .fail trivial

/-- An action on a simulator behaves if it does so on the simulator of the client. -/
theorem behaves_onSimulator {act : Simulator τ → Action τ α} (isSimulator : valid →
    c.config.simulator = true) (acts : ∀ s, s.client = c → c.Behaves p valid (act s) R) :
    c.Behaves p valid (c.onSimulator act) R := by
  unfold onSimulator Simulator.ofClient
  split
  next s found =>
    split at found
    next => cases found; exact acts _ rfl
    next => cases found
  next fault found =>
    split at found
    next => cases found
    next real => exact .fail fun holds => real (isSimulator holds)

end Client

/-! ## Reads -/

namespace Read

/-- The arguments are ones that the read takes, of a client that has it. -/
def Valid (c : Client τ) : Read α → Prop
  | account address | accountTokens address | transactionArguments address _ => address ≠ ""
  | accountStorageKey address key => address ≠ "" ∧ key ≠ ""
  | transaction hash _ | transactionStatus hash | hyperBlockByHash hash => hash ≠ ""
  | token identifier => identifier ≠ ""
  | vmQuery query => query.scAddress ≠ "" ∧ query.funcName ≠ ""
  | hyperBlockByNonce nonce => 0 ≤ nonce ∧ Decimal.isWritable nonce = true
  | networkStatus shard => Decimal.isWritable shard = true
  | initialWallets => c.config.simulator = true
  | networkConfig | networkEconomics | transactionCost _
  | latestHyperBlockNonce => True

/-- Every read sends no transactions, and fails as expected under the policy that is in force. -/
theorem behaves (c : Client τ) (o : CallOptions τ) (r : Read α) :
    c.Behaves (c.policyFor o) (r.Valid c) (r.run c o) fun _ => True := by
  cases r with
  | networkConfig => exact c.behaves_getNetworkConfig o _
  | networkStatus shard =>
    exact (c.behaves_getNetworkStatus o shard fun valid => valid).mono (fun _ h => h) (fun _ h => h)
      fun _ _ => trivial
  | networkEconomics =>
    refine c.behaves_decoded (c.behaves_read_plain rfl o _) fun _ fits => ?_
    obtain ⟨metrics, read⟩ := NetworkEconomics.decode?_of_fits fits
    exact ⟨metrics, read, trivial⟩
  | account address => exact c.behaves_getAccount o address fun valid => valid
  | accountStorageKey address key =>
    refine (c.behaves_require fun valid => Text.filled_coe valid.1).bind fun _ _ => ?_
    refine (c.behaves_require fun valid => Text.filled_coe valid.2).bind fun _ _ => ?_
    have writable : ∀ value ∈ [("address", PathValue.text address), ("key", .text key)],
        value.2.isWritable = true := by simp [PathValue.isWritable_string]
    refine c.behaves_decoded (c.behaves_read rfl o fun _ => writable) fun _ fits => ?_
    obtain ⟨value, read⟩ := fits.text_of_object "value" rfl rfl rfl
    exact ⟨value, read, trivial⟩
  | accountTokens address =>
    refine (c.behaves_require fun valid => Text.filled_coe valid).bind fun _ _ => ?_
    refine c.behaves_decoded (c.behaves_read_string rfl o _) fun _ fits => ?_
    obtain ⟨tokens, read, -⟩ := fits.object_of_object "dcdts" rfl rfl rfl
    exact ⟨tokens, read, trivial⟩
  | transactionArguments address network =>
    exact c.behaves_getDefaultTransactionArguments o address network fun valid => valid
  | transactionCost request =>
    refine c.behaves_decoded (c.behaves_call rfl _ _ _ true o fun _ _ _ => rfl) fun _ fits => ?_
    obtain ⟨cost, read⟩ := TransactionCost.decode?_of_fits fits
    exact ⟨cost, read, trivial⟩
  | transaction hash withResults =>
    refine c.behaves_getTransaction o hash withResults (fun valid => Text.filled_coe valid) ?_
    exact fun _ => Text.isSome_toString?_coe hash
  | transactionStatus hash => exact c.behaves_getTransactionStatus o hash fun valid => valid
  | token identifier => exact c.behaves_getToken o identifier fun valid => valid
  | vmQuery query =>
    refine (c.behaves_require fun valid => Text.filled_coe valid.1).bind fun _ _ => ?_
    refine (c.behaves_require fun valid => Text.filled_coe valid.2).bind fun _ _ => ?_
    refine c.behaves_decoded (c.behaves_call rfl _ _ _ true o fun _ _ _ => rfl) fun _ fits => ?_
    obtain ⟨result, read⟩ := VmQueryResult.decode?_of_fits fits
    exact ⟨result, read, trivial⟩
  | hyperBlockByNonce nonce => exact c.behaves_getHyperBlockByNonce o nonce fun valid => valid
  | hyperBlockByHash hash =>
    refine (c.behaves_require fun valid => Text.filled_coe valid).bind fun _ _ => ?_
    exact c.behaves_readHyperBlock (c.behaves_read_string rfl o _)
  | latestHyperBlockNonce => exact c.behaves_getLatestHyperBlockNonce o _
  | initialWallets =>
    refine c.behaves_onSimulator (fun valid => valid) fun s same => ?_
    subst same
    refine (s.client.behaves_read_plain rfl o _).bind fun data _ => ?_
    exact (Client.ensures_validate _ _ _ fun _ => trivial).bind fun _ _ => .pure trivial

end Read
end GatewayClient
