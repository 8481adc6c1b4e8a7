import GatewayClient.Proofs.Client.Checks

/-!
# What a result is made of

A read makes its result of the payloads of its calls, and of its arguments. `Read.decode?` says how,
without a gateway: it takes the payloads in the order of the calls.

**A result is what the payloads are read as** (`Read.result_eq`): however often a call was repeated,
and whatever the world did meanwhile, the payloads that came in the end pass the checks of the read,
and its result is their decoding.
-/

set_option autoImplicit false

namespace GatewayClient

variable {σ τ α β : Type} [TimeScale τ]

/-! ## Results and payloads -/

namespace Action

/-- How the results of an action go with the payloads that its requests are answered with. -/
def Gives (x : Action τ α) (R : List Json.Fields → α → Prop) : Prop :=
  ∀ ⦃log a⦄, x.Traces log (.ok a) → R log.payloads a

namespace Gives

variable {x : Action τ α} {f : α → Action τ β} {R : List Json.Fields → α → Prop}
variable {S : List Json.Fields → β → Prop}

theorem of_runIn (h : x.Gives R) {w : World σ τ} {s : σ} {a : α}
    (ok : (x.runIn w s).result = .ok a) : R (x.runIn w s).events.payloads a :=
  h (ok ▸ traces_runIn x w s)

theorem mono {R' : List Json.Fields → α → Prop} (h : x.Gives R)
    (more : ∀ payloads a, R payloads a → R' payloads a) : x.Gives R' :=
  fun _ _ traces => more _ _ (h traces)

/-- What follows has the payloads behind those that came before. -/
theorem bind (hx : x.Gives R) (hf : ∀ first a, R first a →
    (f a).Gives fun rest b => S (first ++ rest) b) : Gives (x >>= f) S := by
  intro log b traces
  rcases traces_bind traces with ⟨failure, eq, -⟩ | ⟨first, a, rest, rfl, went, followed⟩
  · cases eq
  · rw [Log.payloads_append]
    exact hf _ a (hx went) followed

/-- Without a request there are no payloads. -/
theorem silent {F : Failure τ → Prop} {R : α → Prop}
    (quiet : x.Ensures (fun e => e.sent? = none) F R) :
    x.Gives fun payloads a => payloads = [] ∧ R a := by
  intro log a traces
  obtain ⟨unsent, met⟩ := quiet traces
  have none : log.payloads = [] := by
    rw [Log.payloads, Log.sent, List.filterMap_eq_nil_iff.mpr unsent]
    rfl
  exact ⟨none, met⟩

/-- What follows something silent has its payloads for itself. -/
theorem after_silent {R : α → Prop} (quiet : x.Gives fun payloads a => payloads = [] ∧ R a)
    (hf : ∀ a, R a → (f a).Gives S) : Gives (x >>= f) S := by
  refine quiet.bind fun first a h => ?_
  rw [h.1]
  exact hf a h.2

/-- What is on the side is silent. -/
theorem after {F : Failure τ → Prop} {R : α → Prop} (quiet : x.Ensures Event.Warns F R)
    (hf : ∀ a, R a → (f a).Gives S) : Gives (x >>= f) S := by
  refine after_silent (silent (quiet.mono (fun e warns => ?_) (fun _ h => h) fun _ h => h)) hf
  obtain ⟨warning, rfl⟩ := warns
  rfl

theorem pure {a : α} (h : R [] a) : (Pure.pure a : Action τ α).Gives R := by
  intro log b traces
  obtain ⟨rfl, eq⟩ := traces_pure traces
  cases eq
  exact h

theorem expect (what : String) (found : Option α) :
    (Action.expect what found : Action τ α).Gives fun payloads a =>
      payloads = [] ∧ found = some a := by
  intro log a traces
  cases found with
  | none => cases (traces_fail traces).2
  | some b =>
    obtain ⟨rfl, eq⟩ := traces_pure traces
    cases eq
    exact ⟨rfl, rfl⟩

/-- What fails gives nothing. -/
theorem fail (failure : Failure τ) : (Action.fail failure : Action τ α).Gives R := by
  intro log a traces
  cases (traces_fail traces).2

/-- A payload is checked before anything is made of it. -/
theorem validated {x : Action τ Json.Fields} {f : Json.Fields → Action τ β}
    (asks : x.Gives fun payloads data => payloads = [data]) (schema : Schema) (what : String)
    (part : Json.Fields → Json)
    (hf : ∀ data, schema.Fits (part data) → (f data).Gives fun rest b => S (data :: rest) b) :
    Gives (do let data ← x; Client.validate schema what (part data); f data) S := by
  refine asks.bind fun first data only => ?_
  rw [only]
  exact after (Client.ensures_validate (F := fun _ => True) schema what (part data)
    fun _ => trivial) fun _ fits => hf data fits

/-- A payload that is checked and then read. -/
theorem decoded {x : Action τ Json.Fields} (asks : x.Gives fun payloads data => payloads = [data])
    (schema : Schema) (what : String) (part : Json.Fields → Json)
    (decode : Json.Fields → Option α) :
    Gives (do
      let data ← x
      Client.validate schema what (part data)
      Action.expect what (decode data)) fun payloads a =>
        ∃ data, payloads = [data] ∧ schema.Fits (part data) ∧ decode data = some a := by
  refine asks.validated schema what part fun data fits => ?_
  refine (expect what (decode data)).mono fun rest a h => ?_
  exact ⟨data, by rw [h.1], fits, h.2⟩

end Gives
end Action

/-- A call ends with its only payload: an answer that is followed by another request has none. -/
theorem Call.Rounds.payloads_eq {c : Call τ} {started : τ} {made : Nat} {log : Log τ}
    {r : Except (Failure τ) Json.Fields} (h : c.Rounds started made log r) {data : Json.Fields}
    (ok : r = .ok data) : log.payloads = [data] := by
  induction h with
  | stopped _ | abandoned _ | refused _ _ | gaveUp _ _ | overflowed _ _ _ | interrupted _ _ _ =>
    cases ok
  | answered payload =>
    cases ok
    simp [Log.payloads, payload, Except.toOption]
  | again retries _ paused _ ih =>
    rw [Log.payloads, sent_again paused, ← ih ok]
    simp [Log.payloads, retries.failed, Except.toOption]

/-- A call gives its payload. -/
theorem Call.gives_run (c : Call τ) : c.run.Gives fun payloads data => payloads = [data] := by
  intro log data traces
  obtain ⟨started, rest, rfl, rounds⟩ := rounds_of_traces_run traces
  exact rounds.payloads_eq rfl

/-! ## What is read of payloads -/

/-- The parameters of the network, from the payloads of the two calls that they are read by. -/
def NetworkConfig.ofPayloads? (config status : Json.Fields) : Option NetworkConfig :=
  (config.object? "config").bind fun config =>
    (status.object? "status").bind fun status => decode? config status

/-- The account in a payload. -/
def AccountInfo.ofPayload? (data : Json.Fields) (address : String) : Option AccountInfo :=
  (data.object? "account").bind fun account => decode? account address

/-- The transaction in a payload. -/
def TransactionOnNetwork.ofPayload? (data : Json.Fields) (hash : Text) (table : StatusTable) :
    Option TransactionOnNetwork :=
  (data.object? "transaction").bind fun tx => decode? tx hash table

section Decoders

open Json (Fields)

/-- The supply and the epoch of a network are those of its metrics. -/
theorem NetworkEconomics.of_decode? {metrics : Fields} {economics : NetworkEconomics}
    (h : decode? metrics = some economics) :
    metrics.text? "erd_total_supply" = some economics.totalSupply ∧
      metrics.number? "erd_epoch_for_economics_data" = some economics.epoch := by
  simp only [decode?, Option.bind_eq_bind, Option.pure_def, Option.bind_eq_some_iff,
    Option.some.injEq] at h
  obtain ⟨_, supply, _, epoch, rfl⟩ := h
  exact ⟨supply, epoch⟩

/-- The balance and the nonce of an account are those that it is read from. -/
theorem AccountInfo.of_decode? {fields : Fields} {address : String} {account : AccountInfo}
    (h : decode? fields address = some account) :
    fields.text? "balance" = some account.balance ∧
      fields.number? "nonce" = some account.nonce := by
  simp only [decode?, Option.bind_eq_bind, Option.pure_def, Option.bind_eq_some_iff,
    Option.some.injEq] at h
  obtain ⟨_, -, _, balance, _, nonce, _, -, _, -, _, -, _, -, rfl⟩ := h
  exact ⟨balance, nonce⟩

/-- The value and the numbers of a transaction are those that it is read from. -/
theorem TransactionOnNetwork.of_decode? {fields : Fields} {hash : Text} {table : StatusTable}
    {tx : TransactionOnNetwork} (h : decode? fields hash table = some tx) :
    fields.text? "value" = some tx.value ∧ fields.number? "nonce" = some tx.nonce ∧
      fields.optional? "gasLimit" Json.number? = some tx.gasLimit ∧
      fields.optional? "gasPrice" Json.number? = some tx.gasPrice ∧
      fields.optional? "blockNonce" Json.number? = some tx.blockNonce ∧
      fields.optional? "round" Json.number? = some tx.round ∧
      fields.optional? "epoch" Json.number? = some tx.epoch := by
  -- the fields are taken off one by one: simplifying them all at once takes too long
  obtain ⟨_, -, h⟩ := Option.bind_eq_some_iff.mp h
  obtain ⟨_, -, h⟩ := Option.bind_eq_some_iff.mp h
  obtain ⟨_, -, h⟩ := Option.bind_eq_some_iff.mp h
  obtain ⟨_, -, h⟩ := Option.bind_eq_some_iff.mp h
  obtain ⟨_, nonce, h⟩ := Option.bind_eq_some_iff.mp h
  obtain ⟨_, value, h⟩ := Option.bind_eq_some_iff.mp h
  obtain ⟨_, -, h⟩ := Option.bind_eq_some_iff.mp h
  obtain ⟨_, gasLimit, h⟩ := Option.bind_eq_some_iff.mp h
  obtain ⟨_, gasPrice, h⟩ := Option.bind_eq_some_iff.mp h
  obtain ⟨_, blockNonce, h⟩ := Option.bind_eq_some_iff.mp h
  obtain ⟨_, -, h⟩ := Option.bind_eq_some_iff.mp h
  obtain ⟨_, round, h⟩ := Option.bind_eq_some_iff.mp h
  obtain ⟨_, epoch, h⟩ := Option.bind_eq_some_iff.mp h
  obtain ⟨_, -, h⟩ := Option.bind_eq_some_iff.mp h
  obtain ⟨_, -, h⟩ := Option.bind_eq_some_iff.mp h
  cases h
  exact ⟨value, nonce, gasLimit, gasPrice, blockNonce, round, epoch⟩

end Decoders

/-! ## The operations of a client -/

namespace Client

open GatewayClient.Action (Gives)

variable (c : Client τ) (o : CallOptions τ)

/-- A call gives its payload. One without a route gives nothing. -/
theorem gives_call (op : Operation) (values : PathValues) (query : Query) (body : Option Bytes)
    (idempotent : Bool) :
    (c.call op values query body idempotent o).Gives fun payloads data => payloads = [data] := by
  cases resolved : c.config.catalog.route op values query with
  | ok route =>
    rw [call_eq_run resolved]
    exact Call.gives_run _
  | error fault =>
    rw [call, resolved]
    exact Gives.fail _

/-- The status of a shard stands in a payload that fits. -/
theorem gives_getNetworkStatus (shard : Int) :
    (c.getNetworkStatus shard o).Gives fun payloads status => ∃ data, payloads = [data] ∧
      Schema.networkStatus.Takes data ∧ data.object? "status" = some status :=
  Gives.decoded (c.gives_call o _ _ _ _ _) _ _ Json.obj _

/-- The parameters of a network are read from two payloads that fit, in the order of their calls. -/
theorem gives_getNetworkConfig :
    (c.getNetworkConfig o).Gives fun payloads network => ∃ data status, payloads = [data, status] ∧
      Schema.networkConfig.Takes data ∧ Schema.networkStatus.Takes status ∧
      NetworkConfig.ofPayloads? data status = some network := by
  refine (c.gives_call o _ _ _ _ _).validated _ _ Json.obj fun data fits => ?_
  refine (c.gives_getNetworkStatus o metachainShard).bind fun first metrics asked => ?_
  obtain ⟨status, rfl, passes, found⟩ := asked
  refine (Gives.expect _ _).mono fun rest network h => ?_
  refine ⟨data, status, by rw [h.1]; rfl, fits, passes, ?_⟩
  rw [NetworkConfig.ofPayloads?, found]
  exact h.2

/-- An account is read from a payload that fits, for an address that it may lack. -/
theorem gives_getAccount (address : String) :
    (c.getAccount address o).Gives fun payloads account => ∃ data, payloads = [data] ∧
      Schema.account.Takes data ∧ AccountInfo.ofPayload? data address = some account :=
  .after (aside_require _ _) fun _ _ => Gives.decoded (c.gives_call o _ _ _ _ _) _ _ Json.obj _

/-- A transaction is read from a payload that fits, for a hash that it may lack. -/
theorem gives_getTransaction (hash : Text) (withResults : Bool) :
    (c.getTransaction hash withResults o).Gives fun payloads tx => ∃ data, payloads = [data] ∧
      Schema.transaction.Takes data ∧
      TransactionOnNetwork.ofPayload? data hash c.statusTable = some tx := by
  refine .after (aside_require _ _) fun _ _ => ?_
  refine (c.gives_call o _ _ _ _ _).validated _ _ Json.obj fun data fits => ?_
  refine (Gives.expect _ _).bind fun first tx h => ?_
  refine .after (c.aside_noteStatus tx.rawStatus) fun _ _ => ?_
  exact .pure ⟨data, by rw [h.1]; rfl, fits, h.2⟩

end Client

/-! ## Reads -/

namespace Read

/-- What a read makes of the payloads of its calls. Any other number of payloads is not what its
calls end with. -/
def decode? (table : StatusTable) : Read α → List Json.Fields → Option α
  | networkConfig, [config, status] => NetworkConfig.ofPayloads? config status
  | networkStatus _, [data] => data.object? "status"
  | networkEconomics, [data] => (data.object? "metrics").bind NetworkEconomics.decode?
  | account address, [data] => AccountInfo.ofPayload? data address
  | accountStorageKey _ _, [data] => data.text? "value"
  | accountTokens _, [data] => data.object? "dcdts"
  | transactionArguments address (some network), [data] =>
    (AccountInfo.ofPayload? data address).map fun account => .of account network
  | transactionArguments address none, [config, status, data] =>
    (NetworkConfig.ofPayloads? config status).bind fun network =>
      (AccountInfo.ofPayload? data address).map fun account => .of account network
  | transactionCost _, [data] => TransactionCost.decode? data
  | transaction hash _, [data] => TransactionOnNetwork.ofPayload? data hash table
  | transactionStatus _, [data] => (data.text? "status").map table.classify
  | token _, [data] => ((data.get? "tokenData").getD (.obj data)).fields?.bind TokenMetadata.decode?
  | vmQuery _, [data] => (data.object? "data").bind VmQueryResult.decode?
  | hyperBlockByNonce _, [data] | hyperBlockByHash _, [data] =>
    (data.object? "hyperblock").bind HyperBlock.decode?
  | latestHyperBlockNonce, [data] =>
    ((data.object? "status").bind (·.number? "erd_nonce")).bind fun
      | .int nonce => some nonce
      | .real _ => none
  | initialWallets, [data] => some data
  | _, _ => none

/-- How the result of a read goes with the payloads of its calls: they pass its checks, and it is
what they are read as. -/
def Reads (table : StatusTable) (r : Read α) (payloads : List Json.Fields) (a : α) : Prop :=
  List.Forall₂ (fun check data => check data) r.checks payloads ∧
    r.decode? table payloads = some a

/-- A read that makes one call has one payload. -/
theorem Reads.single {r : Read α} {table : StatusTable} {payloads : List Json.Fields} {a : α}
    (h : r.Reads table payloads a) {check : Check} (one : r.checks = [check]) :
    ∃ data, payloads = [data] ∧ check data ∧ r.decode? table [data] = some a := by
  obtain ⟨passes, read⟩ := h
  rw [one] at passes
  cases passes with
  | cons fits rest =>
    cases rest
    exact ⟨_, rfl, fits, read⟩

/-- A read that makes one call, and reads its payload. -/
theorem reads_of_single {r : Read α} {table : StatusTable} {x : Action τ α} {check : Check}
    {decode : Json.Fields → Option α}
    (gives : x.Gives fun payloads a => ∃ data, payloads = [data] ∧ check data ∧
      decode data = some a)
    (checks : r.checks = [check]) (reads : ∀ data, r.decode? table [data] = decode data) :
    x.Gives (r.Reads table) := by
  refine gives.mono fun payloads a h => ?_
  obtain ⟨data, rfl, passes, found⟩ := h
  exact ⟨checks ▸ .cons passes .nil, (reads data).trans found⟩

/-- The result of a read goes with its payloads, for every kind of read. -/
theorem gives_run (c : Client τ) (o : CallOptions τ) (r : Read α) :
    (r.run c o).Gives (r.Reads c.statusTable) := by
  cases r with
  | networkConfig =>
    refine (c.gives_getNetworkConfig o).mono fun payloads network h => ?_
    obtain ⟨config, status, rfl, fits, passes, found⟩ := h
    exact ⟨.cons fits (.cons passes .nil), found⟩
  | networkStatus shard => exact reads_of_single (c.gives_getNetworkStatus o shard) rfl fun _ => rfl
  | networkEconomics =>
    exact reads_of_single (.decoded (c.gives_call o _ _ _ _ _) _ _ Json.obj _) rfl fun _ => rfl
  | account address => exact reads_of_single (c.gives_getAccount o address) rfl fun _ => rfl
  | accountStorageKey address key =>
    refine .after (Client.aside_require _ _) fun _ _ => ?_
    refine .after (Client.aside_require _ _) fun _ _ => ?_
    exact reads_of_single (.decoded (c.gives_call o _ _ _ _ _) _ _ Json.obj _) rfl fun _ => rfl
  | accountTokens address =>
    refine .after (Client.aside_require _ _) fun _ _ => ?_
    exact reads_of_single (.decoded (c.gives_call o _ _ _ _ _) _ _ Json.obj _) rfl fun _ => rfl
  -- The parameters of the network may be given. Otherwise two payloads come before that of the
  -- account.
  | transactionArguments address network =>
    cases network with
    | some network =>
      refine (c.gives_getAccount o address).bind fun first account h => .pure ?_
      obtain ⟨data, rfl, fits, found⟩ := h
      refine ⟨.cons fits .nil, ?_⟩
      show (AccountInfo.ofPayload? data address).map _ = _
      rw [found, Option.map_some]
    | none =>
      refine (c.gives_getNetworkConfig o).bind fun first network h => ?_
      obtain ⟨config, status, rfl, configFits, statusFits, network⟩ := h
      refine (c.gives_getAccount o address).bind fun rest account h => .pure ?_
      obtain ⟨data, rfl, fits, found⟩ := h
      refine ⟨.cons configFits (.cons statusFits (.cons fits .nil)), ?_⟩
      show (NetworkConfig.ofPayloads? config status).bind _ = _
      rw [network, Option.bind_some, found, Option.map_some]
  | transactionCost request =>
    exact reads_of_single (.decoded (c.gives_call o _ _ _ _ _) _ _ Json.obj _) rfl fun _ => rfl
  | transaction hash withResults =>
    exact reads_of_single (c.gives_getTransaction o hash withResults) rfl fun _ => rfl
  | transactionStatus hash =>
    refine .after (Client.aside_require _ _) fun _ _ => ?_
    refine (c.gives_call o _ _ _ _ _).validated _ _ Json.obj fun data fits => ?_
    refine (Action.Gives.expect _ _).bind fun first word h => ?_
    refine .after (c.aside_noteStatus word) fun _ _ => .pure ?_
    rw [h.1]
    refine ⟨.cons fits .nil, ?_⟩
    show (data.text? "status").map _ = _
    rw [h.2, Option.map_some]
  | token identifier =>
    refine .after (Client.aside_require _ _) fun _ _ => ?_
    exact reads_of_single (.decoded (c.gives_call o _ _ _ _ _) _ _
      (fun data => (data.get? "tokenData").getD (.obj data)) _) rfl fun _ => rfl
  | vmQuery query =>
    refine .after (Client.aside_require _ _) fun _ _ => ?_
    refine .after (Client.aside_require _ _) fun _ _ => ?_
    exact reads_of_single (.decoded (c.gives_call o _ _ _ _ _) _ _ Json.obj _) rfl fun _ => rfl
  | hyperBlockByNonce nonce =>
    show (c.getHyperBlockByNonce nonce o).Gives _
    unfold Client.getHyperBlockByNonce
    split
    · exact .fail _
    · exact reads_of_single (.decoded (c.gives_call o _ _ _ _ _) _ _ Json.obj _) rfl fun _ => rfl
  | hyperBlockByHash hash =>
    refine .after (Client.aside_require _ _) fun _ _ => ?_
    exact reads_of_single (.decoded (c.gives_call o _ _ _ _ _) _ _ Json.obj _) rfl fun _ => rfl
  | latestHyperBlockNonce =>
    refine (c.gives_getNetworkStatus o _).bind fun first status h => ?_
    obtain ⟨data, rfl, fits, found⟩ := h
    split
    next nonce number =>
      have read : (data.object? "status").bind (·.number? "erd_nonce") = some (.int nonce) := by
        rw [found, Option.bind_some, number]
      refine .pure ⟨.cons ⟨fits, nonce, read⟩ .nil, ?_⟩
      show ((data.object? "status").bind (·.number? "erd_nonce")).bind _ = _
      rw [read]
      rfl
    next => exact .fail _
  | initialWallets =>
    show (c.onSimulator _).Gives _
    unfold Client.onSimulator
    split
    next s _ =>
      refine (s.client.gives_call o _ _ _ _ _).validated _ _ Json.obj fun data fits => .pure ?_
      exact ⟨.cons fits .nil, rfl⟩
    next => exact .fail _

/-- The result of a read is what the payloads of its calls are read as, and they pass its checks. -/
theorem result_eq {w : World σ τ} {s : σ} {c : Client τ} {o : CallOptions τ} {r : Read α} {a : α}
    (ok : ((r.run c o).runIn w s).result = .ok a) :
    r.Reads c.statusTable ((r.run c o).runIn w s).events.payloads a :=
  (r.gives_run c o).of_runIn ok

end Read
end GatewayClient
