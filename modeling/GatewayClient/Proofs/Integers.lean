import GatewayClient.Proofs.Schema.Leaves
import GatewayClient.Proofs.Client.Results
import GatewayClient.Proofs.Shapes

/-!
# Integers of a result

Nonces, prices, epochs and the like are integers in a payload, and a result has them as they stand
there. `Read.integers` lists them, `Read.written` lists the numbers of the payloads that they come
from, and `Read.given` those that come from the caller.

**They are what the node wrote** (`Read.integers_law`): natural numbers by their value. But a schema
takes a double without fractional part for an integer, and nothing converts it afterwards. So a
number that the node writes with a point or an exponent is a double in the result as well
(`Read.fractional_nonce`). Only the reading of the latest nonce refuses it.
-/

set_option autoImplicit false

namespace GatewayClient

open Json (Fields)

/-- The number is an integer, and not negative. -/
def Number.IsCount (n : Number) : Prop := ∃ m : ℕ, n = .int m

/-- A count is a natural number that is no double. -/
theorem Number.isCount_iff {n : Number} : n.IsCount ↔ n.IsNatural ∧ ∀ x, n ≠ .real x := by
  cases n with
  | int n =>
    constructor
    · rintro ⟨m, eq⟩
      cases eq
      exact ⟨Int.natCast_nonneg m, nofun⟩
    · rintro ⟨natural, -⟩
      obtain ⟨m, rfl⟩ := Int.eq_ofNat_of_zero_le natural
      exact ⟨m, rfl⟩
  | real x => exact ⟨nofun, fun h => absurd rfl (h.2 x)⟩

/-! ## Numbers in payloads -/

namespace Json.Fields

/-- The numbers under some keys, where there are any. -/
def numbers (fields : Fields) (keys : List String) : List (Option Number) :=
  keys.map fun (key : String) => fields.number? key

/-- The numbers under some keys of a part of a payload. -/
def numbersIn (data : Fields) (part : String) (keys : List String) : List (Option Number) :=
  ((data.object? part).getD []).numbers keys

/-- The numbers in a part of a payload are those of the part. -/
theorem numbersIn_eq {data inner : Fields} {part : String} (found : data.object? part = some inner)
    (keys : List String) : data.numbersIn part keys = inner.numbers keys := by
  rw [numbersIn, found, Option.getD_some]

/-- A number that may be missing is read as what stands there. -/
theorem number?_of_optional? {fields : Fields} {key : Text} {n : Option Number}
    (read : fields.optional? key Json.number? = some n) : fields.number? key = n := by
  unfold optional? at read
  unfold number?
  split at read
  next none => cases read; rw [none]; rfl
  next null => cases read; rw [null]; rfl
  next value _ found =>
    obtain ⟨number, eq, rfl⟩ := Option.map_eq_some_iff.mp read
    rw [found]
    exact eq

end Json.Fields

/-- What a schema of naturals says of the numbers under its keys. -/
theorem Schema.Takes.natural_of_numbers {required : List String} {fields : List (String × Schema)}
    {data : Fields} (h : (Schema.object required fields).Takes data) {keys : List String}
    (named : (keys.map fun key => fields.lookup key) = keys.map fun _ => some Schema.natural) :
    ∀ n, some n ∈ data.numbers keys → n.IsNatural := by
  intro n mem
  obtain ⟨key, among, read⟩ := List.mem_map.mp mem
  obtain ⟨value, found, number⟩ := Option.bind_eq_some_iff.mp read
  have naturals := List.map_inj_left.mp named key among
  have fits := Schema.Fits.value_of_fields (Schema.Fits.fields_eq_nil h) naturals found
  obtain ⟨m, rfl, natural⟩ := Schema.natural_fits_iff.mp fits
  cases number
  exact natural

/-- What a schema of naturals says of the numbers in a part of a payload. -/
theorem Schema.Takes.natural_of_numbersIn {required : List String}
    {parts fields : List (String × Schema)} {needed : List String} {part : String}
    {schema : Schema} {data : Fields} (h : (Schema.object required parts).Takes data)
    (there : required.contains part = true) (inside : parts.lookup part = some schema)
    (object : schema = Schema.object needed fields) {keys : List String}
    (named : (keys.map fun key => fields.lookup key) = keys.map fun _ => some Schema.natural) :
    ∀ n, some n ∈ data.numbersIn part keys → n.IsNatural := by
  subst object
  obtain ⟨inner, found, fits⟩ := Schema.Fits.object_of_object h part there inside rfl
  rw [Fields.numbersIn_eq found]
  exact natural_of_numbers fits named

/-! ## What the decoders keep -/

section Decoders

/-- The integers that a new transaction starts from. -/
def NetworkConfig.defaults (network : NetworkConfig) : List (Option Number) :=
  [some network.minGasPrice, some network.minGasLimit, some network.minTransactionVersion]

/-- Where they stand in a payload. -/
def NetworkConfig.defaultKeys : List String :=
  ["erd_min_gas_price", "erd_min_gas_limit", "erd_min_transaction_version"]

/-- The integers of a network's parameters. -/
def NetworkConfig.integers (network : NetworkConfig) : List (Option Number) :=
  network.defaults ++ [some network.gasPerDataByte, some network.roundDuration,
    some network.numShards, some network.denomination, some network.currentEpoch,
    some network.currentRound]

/-- Where the others stand: some beside the defaults, and the rest in the status of a shard. -/
def NetworkConfig.otherKeys : List String :=
  ["erd_gas_per_data_byte", "erd_round_duration", "erd_num_shards_without_meta",
    "erd_denomination"]

@[inherit_doc NetworkConfig.otherKeys]
def NetworkConfig.statusKeys : List String := ["erd_epoch_number", "erd_current_round"]

/-- The integers of a network's parameters are the numbers in the parameters and in the status. -/
theorem NetworkConfig.integers_of_decode? {config status : Fields} {network : NetworkConfig}
    (h : decode? config status = some network) :
    network.defaults = config.numbers defaultKeys ∧
      network.integers =
        config.numbers defaultKeys ++ (config.numbers otherKeys ++ status.numbers statusKeys) := by
  simp only [decode?, Option.bind_eq_bind, Option.pure_def, Option.bind_eq_some_iff,
    Option.some.injEq] at h
  obtain ⟨_, -, _, price, _, limit, _, perByte, _, version, _, duration, _, shards, _, denomination,
    _, epoch, _, round, rfl⟩ := h
  simp [integers, defaults, Fields.numbers, defaultKeys, otherKeys, statusKeys, price, limit,
    perByte, version, duration, shards, denomination, epoch, round]

theorem AccountInfo.nonce_of_ofPayload? {data : Fields} {address : String} {account : AccountInfo}
    (h : ofPayload? data address = some account) :
    data.numbersIn "account" ["nonce"] = [some account.nonce] := by
  obtain ⟨inner, found, read⟩ := Option.bind_eq_some_iff.mp h
  rw [Fields.numbersIn_eq found, Fields.numbers, List.map_singleton, (of_decode? read).2]

theorem TokenMetadata.decimals_of_decode? {fields : Fields} {token : TokenMetadata}
    (h : decode? fields = some token) : fields.number? "decimals" = some token.decimals := by
  simp only [decode?, Option.bind_eq_bind, Option.pure_def, Option.bind_eq_some_iff,
    Option.some.injEq] at h
  obtain ⟨_, -, _, -, _, -, _, decimals, _, -, rfl⟩ := h
  exact decimals

theorem TransactionCost.gasUnits_of_decode? {data : Fields} {cost : TransactionCost}
    (h : decode? data = some cost) : data.number? "txGasUnits" = some cost.gasUnits := by
  simp only [decode?, Option.bind_eq_bind, Option.pure_def, Option.bind_eq_some_iff,
    Option.some.injEq] at h
  obtain ⟨_, units, _, -, rfl⟩ := h
  exact units

/-- The integers of a transaction; some may be missing. -/
def TransactionOnNetwork.integers (tx : TransactionOnNetwork) : List (Option Number) :=
  [some tx.nonce, tx.gasLimit, tx.gasPrice, tx.blockNonce, tx.round, tx.epoch]

@[inherit_doc NetworkConfig.defaultKeys]
def TransactionOnNetwork.integerKeys : List String :=
  ["nonce", "gasLimit", "gasPrice", "blockNonce", "round", "epoch"]

/-- The integers of a transaction are the numbers in its fields, missing where they are. -/
theorem TransactionOnNetwork.integers_of_decode? {fields : Fields} {hash : Text}
    {table : StatusTable} {tx : TransactionOnNetwork} (h : decode? fields hash table = some tx) :
    tx.integers = fields.numbers integerKeys := by
  obtain ⟨-, nonce, gasLimit, gasPrice, blockNonce, round, epoch⟩ := of_decode? h
  simp only [integers, Fields.numbers, integerKeys, List.map_cons, List.map_nil, nonce,
    Fields.number?_of_optional? gasLimit, Fields.number?_of_optional? gasPrice,
    Fields.number?_of_optional? blockNonce, Fields.number?_of_optional? round,
    Fields.number?_of_optional? epoch]

/-- The integers of a block. -/
def HyperBlock.integers (block : HyperBlock) : List (Option Number) :=
  [some block.nonce, some block.round, some block.epoch, some block.numTxs, some block.timestamp]

@[inherit_doc NetworkConfig.defaultKeys]
def HyperBlock.integerKeys : List String := ["nonce", "round", "epoch", "numTxs", "timestamp"]

theorem HyperBlock.integers_of_decode? {fields : Fields} {block : HyperBlock}
    (h : decode? fields = some block) : block.integers = fields.numbers integerKeys := by
  simp only [decode?, Option.bind_eq_bind, Option.pure_def, Option.bind_eq_some_iff,
    Option.some.injEq] at h
  obtain ⟨_, nonce, _, round, _, epoch, _, -, _, -, _, count, _, timestamp, _, -, _, -, rfl⟩ := h
  simp [integers, Fields.numbers, integerKeys, nonce, round, epoch, count, timestamp]

end Decoders

variable {σ τ α : Type} [TimeScale τ]

/-! ## The integers of a read -/

namespace Read

/-- The integers of a result. Those that may be missing are `none` where they are. -/
def integers : Read α → α → List (Option Number)
  | networkConfig, network => network.integers
  | networkEconomics, economics => [some economics.epoch]
  | account _, info => [some info.nonce]
  | transactionArguments _ _, first =>
    [some first.nonce, some first.gasPrice, some first.gasLimit, some first.version]
  | transactionCost _, cost => [some cost.gasUnits]
  | transaction _ _, tx => tx.integers
  | token _, metadata => [some metadata.decimals]
  | hyperBlockByNonce _, block | hyperBlockByHash _, block => block.integers
  | latestHyperBlockNonce, nonce => [some (.int nonce)]
  | networkStatus _, _ | accountStorageKey _ _, _ | accountTokens _, _ | transactionStatus _, _
  | vmQuery _, _ | initialWallets, _ => []

/-- The numbers that the node wrote for them in the payloads. -/
def written : Read α → List Json.Fields → List (Option Number)
  | networkConfig, [config, status] =>
    config.numbersIn "config" NetworkConfig.defaultKeys ++
      (config.numbersIn "config" NetworkConfig.otherKeys ++
        status.numbersIn "status" NetworkConfig.statusKeys)
  | networkEconomics, [data] => data.numbersIn "metrics" ["erd_epoch_for_economics_data"]
  | account _, [data] => data.numbersIn "account" ["nonce"]
  | transactionArguments _ (some _), [data] => data.numbersIn "account" ["nonce"]
  | transactionArguments _ none, [config, _, data] =>
    data.numbersIn "account" ["nonce"] ++ config.numbersIn "config" NetworkConfig.defaultKeys
  | transactionCost _, [data] => data.numbers ["txGasUnits"]
  | transaction _ _, [data] => data.numbersIn "transaction" TransactionOnNetwork.integerKeys
  | token _, [data] =>
    (((data.get? "tokenData").getD (.obj data)).fields?.getD []).numbers ["decimals"]
  | hyperBlockByNonce _, [data] | hyperBlockByHash _, [data] =>
    data.numbersIn "hyperblock" HyperBlock.integerKeys
  | latestHyperBlockNonce, [data] => data.numbersIn "status" ["erd_nonce"]
  | _, _ => []

/-- The integers that the caller gave, with the parameters of the network. -/
def given : Read α → List (Option Number)
  | transactionArguments _ (some network) => network.defaults
  | _ => []

variable {table : StatusTable} {r : Read α} {payloads : List Json.Fields} {a : α}

/-- The payloads of a read that asks for the parameters of the network: those of two calls. -/
theorem Reads.networkConfig {config status : Check} {rest : List Check}
    (h : r.Reads table payloads a) (several : r.checks = config :: status :: rest) :
    ∃ x y others, payloads = x :: y :: others ∧ config x ∧ status y ∧
      List.Forall₂ (fun check data => check data) rest others := by
  have passes := h.1
  rw [several] at passes
  obtain ⟨x, _, first, behind, rfl⟩ := List.forall₂_cons_left_iff.mp passes
  obtain ⟨y, others, second, left, rfl⟩ := List.forall₂_cons_left_iff.mp behind
  exact ⟨x, y, others, rfl, first, second, left⟩

/-- The integers of a result are the numbers that the node wrote, and those that were given. -/
theorem integers_eq (h : r.Reads table payloads a) :
    r.integers a = r.written payloads ++ r.given := by
  cases r with
  | networkStatus | accountStorageKey | accountTokens | transactionStatus | vmQuery
  | initialWallets => rfl
  -- The parameters take two payloads, and the second one has its numbers under another key.
  | networkConfig =>
    obtain ⟨config, status, _, rfl, -, -, none⟩ := h.networkConfig rfl
    obtain rfl := List.forall₂_nil_left_iff.mp none
    have read : NetworkConfig.ofPayloads? config status = some a := h.2
    obtain ⟨inner, found, read⟩ := Option.bind_eq_some_iff.mp read
    obtain ⟨metrics, there, read⟩ := Option.bind_eq_some_iff.mp read
    show a.integers = _ ++ (_ ++ _) ++ []
    rw [(NetworkConfig.integers_of_decode? read).2, Fields.numbersIn_eq found,
      Fields.numbersIn_eq found, Fields.numbersIn_eq there, List.append_nil]
  | networkEconomics =>
    obtain ⟨data, rfl, -, read⟩ := h.single rfl
    obtain ⟨metrics, found, read⟩ := Option.bind_eq_some_iff.mp read
    show [some a.epoch] = data.numbersIn "metrics" ["erd_epoch_for_economics_data"] ++ []
    rw [Fields.numbersIn_eq found, ← (NetworkEconomics.of_decode? read).2]
    rfl
  | account address =>
    obtain ⟨data, rfl, -, read⟩ := h.single rfl
    show [some a.nonce] = data.numbersIn "account" ["nonce"] ++ []
    rw [AccountInfo.nonce_of_ofPayload? read, List.append_nil]
  | transactionArguments address network =>
    cases network with
    | some network =>
      obtain ⟨data, rfl, -, read⟩ := h.single rfl
      obtain ⟨account, inside, rfl⟩ := Option.map_eq_some_iff.mp read
      show some account.nonce :: network.defaults =
        data.numbersIn "account" ["nonce"] ++ network.defaults
      rw [AccountInfo.nonce_of_ofPayload? inside]
      rfl
    | none =>
      obtain ⟨config, status, _, rfl, -, -, rest⟩ := h.networkConfig rfl
      obtain ⟨data, _, -, none, rfl⟩ := List.forall₂_cons_left_iff.mp rest
      obtain rfl := List.forall₂_nil_left_iff.mp none
      obtain ⟨network, asked, read⟩ := Option.bind_eq_some_iff.mp h.2
      obtain ⟨account, inside, rfl⟩ := Option.map_eq_some_iff.mp read
      obtain ⟨parameters, there, asked⟩ := Option.bind_eq_some_iff.mp asked
      obtain ⟨metrics, -, asked⟩ := Option.bind_eq_some_iff.mp asked
      show some account.nonce :: network.defaults = data.numbersIn "account" ["nonce"] ++
        config.numbersIn "config" NetworkConfig.defaultKeys ++ []
      rw [AccountInfo.nonce_of_ofPayload? inside, Fields.numbersIn_eq there,
        (NetworkConfig.integers_of_decode? asked).1, List.append_nil]
      rfl
  | transactionCost request =>
    obtain ⟨data, rfl, -, read⟩ := h.single rfl
    show [some a.gasUnits] = [data.number? "txGasUnits"]
    rw [TransactionCost.gasUnits_of_decode? read]
  | transaction hash withResults =>
    obtain ⟨data, rfl, -, read⟩ := h.single rfl
    obtain ⟨inner, found, read⟩ := Option.bind_eq_some_iff.mp read
    show a.integers = data.numbersIn "transaction" TransactionOnNetwork.integerKeys ++ []
    rw [TransactionOnNetwork.integers_of_decode? read, Fields.numbersIn_eq found, List.append_nil]
  | token identifier =>
    obtain ⟨data, rfl, -, read⟩ := h.single rfl
    obtain ⟨inner, found, read⟩ := Option.bind_eq_some_iff.mp read
    show [some a.decimals] =
      (((data.get? "tokenData").getD (.obj data)).fields?.getD []).numbers ["decimals"] ++ []
    rw [found, Option.getD_some, Fields.numbers, List.map_singleton,
      TokenMetadata.decimals_of_decode? read, List.append_nil]
  | hyperBlockByNonce | hyperBlockByHash =>
    obtain ⟨data, rfl, -, read⟩ := h.single rfl
    obtain ⟨inner, found, read⟩ := Option.bind_eq_some_iff.mp read
    show a.integers = data.numbersIn "hyperblock" HyperBlock.integerKeys ++ []
    rw [HyperBlock.integers_of_decode? read, Fields.numbersIn_eq found, List.append_nil]
  | latestHyperBlockNonce =>
    obtain ⟨data, rfl, ⟨-, nonce, found⟩, read⟩ := h.single rfl
    obtain ⟨metrics, inside, number⟩ := Option.bind_eq_some_iff.mp found
    have same : nonce = a := by
      change ((data.object? "status").bind (·.number? "erd_nonce")).bind _ = _ at read
      rw [found] at read
      exact Option.some.inj read
    show [some (.int a)] = data.numbersIn "status" ["erd_nonce"] ++ []
    rw [Fields.numbersIn_eq inside, Fields.numbers, List.map_singleton, number, same,
      List.append_nil]

/-- What the node wrote for an integer is a natural number. -/
theorem isNatural_of_written (h : r.Reads table payloads a) :
    ∀ n, some n ∈ r.written payloads → n.IsNatural := by
  cases r with
  | networkStatus | accountStorageKey | accountTokens | transactionStatus | vmQuery
  | initialWallets => exact nofun
  | networkConfig =>
    obtain ⟨config, status, _, rfl, fits, passes, none⟩ := h.networkConfig rfl
    obtain rfl := List.forall₂_nil_left_iff.mp none
    show ∀ n, some n ∈ _ ++ (_ ++ _) → _
    simp only [List.mem_append, or_imp, forall_and]
    exact ⟨fits.natural_of_numbersIn rfl rfl rfl rfl, fits.natural_of_numbersIn rfl rfl rfl rfl,
      passes.natural_of_numbersIn rfl rfl rfl rfl⟩
  | networkEconomics =>
    obtain ⟨data, rfl, fits, -⟩ := h.single rfl
    exact fits.natural_of_numbersIn rfl rfl rfl rfl
  | account address =>
    obtain ⟨data, rfl, fits, -⟩ := h.single rfl
    exact fits.natural_of_numbersIn rfl rfl rfl rfl
  | transactionArguments address network =>
    cases network with
    | some network =>
      obtain ⟨data, rfl, fits, -⟩ := h.single rfl
      exact fits.natural_of_numbersIn rfl rfl rfl rfl
    | none =>
      obtain ⟨config, status, _, rfl, fits, -, rest⟩ := h.networkConfig rfl
      obtain ⟨data, _, passes, none, rfl⟩ := List.forall₂_cons_left_iff.mp rest
      obtain rfl := List.forall₂_nil_left_iff.mp none
      show ∀ n, some n ∈ _ ++ _ → _
      simp only [List.mem_append, or_imp, forall_and]
      exact ⟨passes.natural_of_numbersIn rfl rfl rfl rfl, fits.natural_of_numbersIn rfl rfl rfl rfl⟩
  | transactionCost request =>
    obtain ⟨data, rfl, fits, -⟩ := h.single rfl
    exact fits.natural_of_numbers rfl
  | transaction hash withResults =>
    obtain ⟨data, rfl, fits, -⟩ := h.single rfl
    exact fits.natural_of_numbersIn rfl rfl rfl rfl
  | token identifier =>
    obtain ⟨data, rfl, fits, -⟩ := h.single rfl
    obtain ⟨inner, here⟩ := fits.fields_of_kinds rfl
    show ∀ n, some n ∈
      (((data.get? "tokenData").getD (.obj data)).fields?.getD []).numbers ["decimals"] → _
    rw [here] at fits ⊢
    exact Schema.Takes.natural_of_numbers fits rfl
  | hyperBlockByNonce | hyperBlockByHash =>
    obtain ⟨data, rfl, fits, -⟩ := h.single rfl
    exact fits.natural_of_numbersIn rfl rfl rfl rfl
  | latestHyperBlockNonce =>
    obtain ⟨data, rfl, fits, -⟩ := h.single rfl
    exact fits.1.natural_of_numbersIn rfl rfl rfl rfl

/-- The result of a read has the numbers that the node wrote and those that the caller gave. What
the node wrote are natural numbers. They are integers in the result if none of them is written as a
double, and only then. -/
theorem integers_law {w : World σ τ} {s : σ} {c : Client τ} {o : CallOptions τ}
    (ok : ((r.run c o).runIn w s).result = .ok a) :
    let payloads := ((r.run c o).runIn w s).events.payloads
    r.integers a = r.written payloads ++ r.given ∧
      (∀ n, some n ∈ r.written payloads → n.IsNatural) ∧
      ((∀ n, some n ∈ r.integers a → n.IsCount) ↔
        (∀ x, some (.real x) ∉ r.written payloads) ∧ ∀ n, some n ∈ r.given → n.IsCount) := by
  intro payloads
  have reads : r.Reads c.statusTable payloads a := result_eq ok
  have natural := isNatural_of_written reads
  refine ⟨integers_eq reads, natural, ?_⟩
  rw [integers_eq reads]
  simp only [List.mem_append, or_imp, forall_and]
  refine and_congr_left fun _ => ⟨fun counts x mem => ?_, fun whole n mem => ?_⟩
  · obtain ⟨m, eq⟩ := counts _ mem
    cases eq
  · exact Number.isCount_iff.mpr ⟨natural n mem, fun x eq => whole x (eq ▸ mem)⟩

/-- The nonce of an account that is read. -/
theorem integers_law_account :
    let read : Read AccountInfo := .account "drt1"
    let r := read.answered accountPayload.enveloped
    ∃ a, r.result = .ok a ∧ read.integers a = read.written r.events.payloads ++ read.given ∧
      (∀ n, some n ∈ read.written r.events.payloads → n.IsNatural) ∧
      ((∀ n, some n ∈ read.integers a → n.IsCount) ↔
        (∀ x, some (.real x) ∉ read.written r.events.payloads) ∧
          ∀ n, some n ∈ read.given → n.IsCount) := by
  intro read r
  have nonce : r.result.toOption.map (·.nonce) = some (.int 5) := by decide +kernel
  obtain ⟨a, ok, -⟩ := exists_of_toOption nonce
  exact ⟨a, ok, read.integers_law ok⟩

/-! ## A nonce that stays a double -/

/-- An account whose nonce has a point. -/
def fractionalAccount : Json.Fields :=
  [("account", .obj [("balance", .str "100"), ("nonce", .num (.real 5.0))])]

/-- The status of a shard whose nonce has a point. -/
def fractionalStatus : Json.Fields :=
  [("status", .obj [("erd_current_round", .num (.int 7)), ("erd_epoch_number", .num (.int 1)),
    ("erd_nonce", .num (.real 5.0))])]

/-- A nonce that the node writes as `5.0` is a double in an account. For the nonce of the latest
block it is refused. -/
theorem fractional_nonce :
    (∃ a, ((account "drt1").answered fractionalAccount.enveloped).result = .ok a ∧
      ¬ a.nonce.IsCount) ∧
    ∃ e, (latestHyperBlockNonce.answered fractionalStatus.enveloped).result = .error (.api e) ∧
      e.kind = .decode := by
  refine ⟨?_, exists_of_malformed (by decide +kernel)⟩
  have nonce : ((account "drt1").answered fractionalAccount.enveloped).result.toOption.map
      (·.nonce) = some (.real 5.0) := by decide +kernel
  obtain ⟨a, ok, fractional⟩ := exists_of_toOption nonce
  refine ⟨a, ok, ?_⟩
  rintro ⟨m, whole⟩
  cases fractional.symm.trans whole

end Read

end GatewayClient
