import GatewayClient.Proofs.Accounting
import GatewayClient.Proofs.Refusals
import Mathlib.Data.List.Forall2

/-!
# The checks of an operation

A command that is a chain of calls checks the payload of each of them before it goes on.
`Command.checks` lists what it asks of them, in their order.

**Payloads that pass are read** (`Command.returns_iff`): where nothing disturbs the calls, a command
that takes its arguments has a result exactly if its payloads pass its checks. What a check lets
pass is never refused afterwards, and what it does not let pass never becomes a result.
-/

set_option autoImplicit false

namespace GatewayClient

variable {σ τ α β : Type} [TimeScale τ]

/-! ## Undisturbed logs -/

/-- What is asked of a payload. -/
abbrev Check := Json.Fields → Prop

/-- The payload fits a schema. -/
def Schema.Takes (schema : Schema) : Check := fun data => schema.Fits (.obj data)

namespace Log

/-- The payloads that requests were answered with. -/
def payloads (log : Log τ) : List Json.Fields :=
  log.sent.filterMap fun call => call.2.bind fun outcome =>
    (outcome.payload : Except (ApiError τ) Json.Fields).toOption

theorem payloads_append (log more : Log τ) :
    payloads (log ++ more) = log.payloads ++ more.payloads := by
  rw [payloads, sent_append, List.filterMap_append]
  rfl

/-- Every request was answered with a payload, and no signal came in between. -/
structure Undisturbed (log : Log τ) : Prop where
  yields : ∀ call ∈ log.sent, yielded call = true
  unsignalled : log.signals = false

/-- A log is undisturbed exactly if both its parts are. -/
theorem undisturbed_append {log more : Log τ} :
    Undisturbed (log ++ more) ↔ log.Undisturbed ∧ Undisturbed more := by
  constructor
  · rintro ⟨yields, unsignalled⟩
    rw [sent_append, List.forall_mem_append] at yields
    rw [signals_append, Bool.or_eq_false_iff] at unsignalled
    exact ⟨⟨yields.1, unsignalled.1⟩, yields.2, unsignalled.2⟩
  · rintro ⟨⟨yields, unsignalled⟩, more, silent⟩
    refine ⟨?_, by rw [signals_append, unsignalled, silent]; rfl⟩
    rw [sent_append, List.forall_mem_append]
    exact ⟨yields, more⟩

end Log

/-- A check that fails among the first ones fails among all. -/
theorem mem_zip_append {γ δ : Type} {xs more : List γ} {ys : List δ} {pair : γ × δ}
    (mem : pair ∈ xs.zip ys) : pair ∈ (xs ++ more).zip ys := by
  induction xs generalizing ys with
  | nil => cases mem
  | cons x xs ih =>
    cases ys with
    | nil => cases mem
    | cons y ys =>
      rw [List.cons_append, List.zip_cons_cons, List.mem_cons] at *
      exact mem.imp_right ih

omit [TimeScale τ] in
/-- A payload that fits passes. -/
theorem Client.validate_of_fits {schema : Schema} {what : String} {j : Json}
    (fits : schema.Fits j) : (validate schema what j : Action τ Unit) = pure () := by
  rw [validate, Schema.validate_eq_ok_iff.mpr fits]
  rfl

/-! ## What an action asks of its payloads -/

namespace Action

/-- What an undisturbed action asks of its payloads, one after the other, and what its result is
like. There is a result if all of them pass, and none if one of them does not. -/
def Checks (x : Action τ α) (checks : List Check) (R : α → Prop) : Prop :=
  ∀ ⦃log r⦄, x.Traces log r → log.Undisturbed → match r with
    | .ok a => List.Forall₂ (fun check data => check data) checks log.payloads ∧ R a
    | .error _ => ∃ pair ∈ checks.zip log.payloads, ¬ pair.1 pair.2

namespace Checks

variable {x : Action τ α} {checks more : List Check} {R : α → Prop}

/-- An undisturbed action has a result exactly if its payloads pass. -/
theorem returns_iff (h : x.Checks checks R) {log : Log τ} {r : Except (Failure τ) α}
    (traces : x.Traces log r) (undisturbed : log.Undisturbed) :
    (∃ a, r = .ok a) ↔ ∀ pair ∈ checks.zip log.payloads, pair.1 pair.2 := by
  have checked := h traces undisturbed
  cases r with
  | ok a =>
    refine ⟨fun _ pair mem => ?_, fun _ => ⟨a, rfl⟩⟩
    exact (List.forall₂_iff_zip.mp checked.1).2 mem
  | error failure =>
    obtain ⟨pair, mem, fails⟩ := checked
    exact ⟨fun ⟨_, ok⟩ => (nomatch ok), fun all => absurd (all pair mem) fails⟩

/-- What is on the side checks nothing, if it does not fail. -/
theorem aside (quiet : x.Ensures Event.Warns (fun _ => False) R) : x.Checks [] R := by
  intro log r traces _
  obtain ⟨warns, met⟩ := quiet traces
  cases r with
  | ok a =>
    have silent : log.sent = [] := List.filterMap_eq_nil_iff.mpr fun e mem => by
      obtain ⟨warning, rfl⟩ := warns e mem
      rfl
    rw [Log.payloads, silent]
    exact ⟨.nil, met⟩
  | error failure => exact met.elim

theorem pure {a : α} (holds : R a) : (Pure.pure a : Action τ α).Checks [] R :=
  aside (.pure holds)

/-- What is expected is there. -/
theorem expect {what : String} {found : Option α} (h : ∃ a, found = some a ∧ R a) :
    (Action.expect what found : Action τ α).Checks [] R :=
  aside (.expect h)

/-- The checks of a chain are those of its parts, one after the other. -/
theorem bind {f : α → Action τ β} {R' : β → Prop} (hx : x.Checks checks R)
    (hf : ∀ a, R a → (f a).Checks more R') : Checks (x >>= f) (checks ++ more) R' := by
  intro log r traces undisturbed
  rcases traces_bind traces with ⟨failure, rfl, cut⟩ | ⟨first, a, rest, rfl, went, followed⟩
  · obtain ⟨pair, mem, fails⟩ := hx cut undisturbed
    exact ⟨pair, mem_zip_append mem, fails⟩
  · obtain ⟨before, after⟩ := Log.undisturbed_append.mp undisturbed
    obtain ⟨passed, holds⟩ := hx went before
    have rest := hf a holds followed after
    rw [Log.payloads_append]
    cases r with
    | ok b => exact ⟨List.rel_append passed rest.1, rest.2⟩
    | error failure =>
      obtain ⟨pair, mem, fails⟩ := rest
      refine ⟨pair, ?_, fails⟩
      rw [List.zip_append passed.length_eq]
      exact List.mem_append_right _ mem

end Checks

/-! ## One payload -/

/-- An undisturbed action gives the payload of its only request. -/
def Fetches (x : Action τ Json.Fields) : Prop :=
  ∀ ⦃log r⦄, x.Traces log r → log.Undisturbed → ∃ data, r = .ok data ∧ log.payloads = [data]

namespace Fetches

variable {x : Action τ Json.Fields} {f : Json.Fields → Action τ α} {checks : List Check}
  {R : α → Prop}

/-- A payload is checked, and the action goes on only if it passes. -/
theorem checked (asks : x.Fetches) {check : Check} {P : Event τ → Prop} {F : Failure τ → Prop}
    (passes : ∀ data, check data → (f data).Checks checks R)
    (blocks : ∀ data, ¬ check data → (f data).Ensures P F fun _ => False) :
    Checks (x >>= f) (check :: checks) R := by
  intro log r traces undisturbed
  rcases traces_bind traces with ⟨failure, rfl, cut⟩ | ⟨first, data, rest, rfl, went, followed⟩
  · obtain ⟨data, ok, -⟩ := asks cut undisturbed
    cases ok
  · obtain ⟨before, after⟩ := Log.undisturbed_append.mp undisturbed
    obtain ⟨_, same, payloads⟩ := asks went before
    cases same
    rw [Log.payloads_append, payloads]
    by_cases holds : check data
    · have goes := passes data holds followed after
      cases r with
      | ok a => exact ⟨.cons holds goes.1, goes.2⟩
      | error failure =>
        obtain ⟨pair, mem, fails⟩ := goes
        exact ⟨pair, List.mem_cons_of_mem _ mem, fails⟩
    · cases r with
      | ok a => exact (blocks data holds followed).2.elim
      | error failure => exact ⟨(check, data), List.mem_cons_self, holds⟩

/-- A payload is checked against a schema, or what is under one of its keys is. -/
theorem validated (asks : x.Fetches) {schema : Schema} {what : String} (part : Json.Fields → Json)
    (passes : ∀ data, schema.Fits (part data) → (f data).Checks checks R) :
    Checks (do let data ← x; Client.validate schema what (part data); f data)
      ((fun data => schema.Fits (part data)) :: checks) R := by
  refine asks.checked (P := fun _ => True) (F := fun _ => True) (fun data fits => ?_)
    fun data misfits => ?_
  · rw [Client.validate_of_fits fits]
    exact passes data fits
  · refine (Client.ensures_validate schema what (part data) fun _ => trivial).bind fun _ fits => ?_
    exact absurd fits misfits

/-- A payload that fits its schema and can then be read. -/
theorem decoded (asks : x.Fetches) {schema : Schema} {what : String} (part : Json.Fields → Json)
    {decode : Json.Fields → Option α}
    (reads : ∀ data, schema.Fits (part data) → ∃ a, decode data = some a) :
    Checks (do
      let data ← x
      Client.validate schema what (part data)
      Action.expect what (decode data)) [fun data => schema.Fits (part data)] fun _ => True :=
  asks.validated part fun data fits => .expect ((reads data fits).imp fun _ read => ⟨read, trivial⟩)

end Fetches
end Action

/-- A call fetches. -/
theorem Call.fetches_run (c : Call τ) : c.run.Fetches := by
  intro log r traces undisturbed
  obtain ⟨started, rest, rfl, rounds⟩ := rounds_of_traces_run traces
  obtain ⟨yields, unsignalled⟩ := undisturbed
  have failed : ∀ {outcome : Outcome} {e : ApiError τ} {more : Log τ},
      outcome.payload = .error e → rest = c.asked outcome ++ more → False := by
    rintro outcome e more failed rfl
    have mem : (c.request, some outcome) ∈
        Log.sent (.clock started :: (c.asked outcome ++ more)) := by simp
    have payload := yields _ mem
    rw [Log.yielded_of_failed failed] at payload
    cases payload
  cases rounds with
  | stopped _ => cases unsignalled
  | abandoned _ => cases yields _ List.mem_cons_self
  | @answered _ outcome data payload =>
    refine ⟨data, rfl, ?_⟩
    simp [Log.payloads, payload, Except.toOption]
  | refused error _ => exact (failed error (List.append_nil _).symm).elim
  | gaveUp retries _ | overflowed retries _ _ | interrupted retries _ _ | again retries _ _ _ =>
    exact (failed retries.failed rfl).elim

/-! ## The operations of a client -/

namespace Client

open GatewayClient.Action (Checks Fetches)

variable (c : Client τ) (o : CallOptions τ)

/-- A call that has its route fetches. -/
theorem fetches_call {op : Operation} {values : PathValues} {query : Query} (body : Option Bytes)
    (idempotent : Bool) (resolves : ∃ route, c.config.catalog.route op values query = .ok route) :
    (c.call op values query body idempotent o).Fetches := by
  obtain ⟨route, resolves⟩ := resolves
  rw [call_eq_run resolves]
  exact Call.fetches_run _

/-- A call whose path has no slots fetches. -/
theorem fetches_fixed (op : Operation) {body : Option Bytes} {idempotent : Bool}
    (fixed : (template c.config.apiVersion op).slots = [])
    (available : op.simulatorOnly = true → c.config.simulator = true) :
    (c.call op [] [] body idempotent o).Fetches :=
  c.fetches_call o body idempotent (Catalog.exists_route_fixed [] fixed available)

/-- A call whose path has one slot fetches. -/
theorem fetches_slot (op : Operation) {name : String} {value : PathValue} {query : Query}
    (slot : (template c.config.apiVersion op).slots = [name]) (real : op.simulatorOnly = false)
    (filled : value.fills = true) :
    (c.call op [(name, value)] query none true o).Fetches :=
  c.fetches_call o none true (Catalog.exists_route_slot query slot real filled)

/-- An argument that is there asks nothing of payloads. -/
theorem checks_require {name : String} {value : Text} (filled : value ≠ "") :
    (require name value : Action τ Unit).Checks [] fun _ => True := by
  rw [require_of_filled filled]
  exact .pure trivial

theorem checks_noteStatus (word : Text) : (c.noteStatus word).Checks [] fun _ => True := by
  unfold noteStatus
  split
  · exact .pure trivial
  · exact .aside (.warn ⟨_, rfl⟩)

/-- The status of a shard is checked once. It is then known to have an epoch and a round. -/
theorem checks_getNetworkStatus {shard : Int} (short : Decimal.isWritable shard = true) :
    (c.getNetworkStatus shard o).Checks [Schema.networkStatus.Takes] fun status =>
      (∃ n, status.number? "erd_epoch_number" = some n) ∧
        ∃ n, status.number? "erd_current_round" = some n :=
  (c.fetches_slot o .networkStatus rfl rfl (PathValue.fills_int short)).validated Json.obj
    fun _ fits => .expect fits.status

/-- The parameters of a network are read by two calls, and each payload is checked. -/
theorem checks_getNetworkConfig :
    (c.getNetworkConfig o).Checks [Schema.networkConfig.Takes, Schema.networkStatus.Takes]
      fun _ => True := by
  refine (c.fetches_fixed o .networkConfig rfl nofun).validated Json.obj fun data fits => ?_
  refine (c.checks_getNetworkStatus o isWritable_metachainShard).bind fun status ready => ?_
  obtain ⟨⟨_, epoch⟩, ⟨_, round⟩⟩ := ready
  obtain ⟨config, read⟩ := NetworkConfig.decode?_of_fits fits epoch round
  exact .expect ⟨config, read, trivial⟩

theorem checks_getAccount {address : String} (filled : address ≠ "") :
    (c.getAccount address o).Checks [Schema.account.Takes] fun _ => True := by
  refine (checks_require (Text.filled_coe filled)).bind fun _ _ => ?_
  have slot := PathValue.fills_string filled
  exact (c.fetches_slot o .account rfl rfl slot).decoded Json.obj fun _ fits =>
    AccountInfo.decode?_of_fits fits address

/-- A transaction is asked for by a hash that can stand in a path, and its payload is checked. -/
theorem checks_getTransaction {hash : Text} (filled : hash ≠ "")
    (known : hash.toString?.isSome = true) (withResults : Bool) :
    (c.getTransaction hash withResults o).Checks [Schema.transaction.Takes] fun _ => True := by
  refine (checks_require filled).bind fun _ _ => ?_
  have slot := PathValue.fills_text filled known
  refine (c.fetches_slot o .transaction rfl rfl slot).validated Json.obj fun data fits => ?_
  obtain ⟨tx, read⟩ := TransactionOnNetwork.decode?_of_fits fits hash c.statusTable
  refine (Checks.expect (R := fun _ => True) ⟨tx, read, trivial⟩).bind fun tx _ => ?_
  exact (c.checks_noteStatus tx.rawStatus).bind fun _ _ => .pure trivial

/-- A nonce that the reading of the latest block takes: it stands in a status that fits, and is a
whole number. -/
def TakesNonce : Check := fun data => Schema.networkStatus.Takes data ∧
  ∃ nonce, (data.object? "status").bind (·.number? "erd_nonce") = some (.int nonce)

/-- The latest block is known by the nonce of a status. -/
theorem checks_getLatestHyperBlockNonce :
    (c.getLatestHyperBlockNonce o).Checks [TakesNonce] fun _ => True := by
  have asks : (c.read .networkStatus [("shard", .int metachainShard)] o).Fetches :=
    c.fetches_slot o .networkStatus rfl rfl (PathValue.fills_int isWritable_metachainShard)
  rw [getLatestHyperBlockNonce, getNetworkStatus, Action.bind_assoc]
  refine asks.checked (P := fun _ => True) (F := fun _ => True) (fun data takes => ?_)
    fun data lacks => ?_
  · obtain ⟨fits, nonce, found⟩ := takes
    obtain ⟨status, here, number⟩ := Option.bind_eq_some_iff.mp found
    rw [validate_of_fits fits]
    refine (Checks.expect (R := fun found => found = status) ⟨status, here, rfl⟩).bind ?_
    rintro _ rfl
    split
    next => exact .pure trivial
    next other => exact absurd number (other nonce)
  · refine Action.Ensures.bind (R := fun status => Schema.networkStatus.Takes data ∧
      data.object? "status" = some status) ?_ fun status ready => ?_
    · refine (ensures_validate _ _ _ fun _ => trivial).bind fun _ fits => ?_
      obtain ⟨status, found, -⟩ := Schema.Fits.status fits
      exact .expect ⟨status, found, fits, found⟩
    · split
      next nonce number =>
        refine absurd ⟨ready.1, nonce, ?_⟩ lacks
        rw [ready.2, Option.bind_some, number]
      next => exact .fail trivial

end Client

/-! ## Reads -/

namespace Read

/-- What a read asks of the payloads of its calls, in their order. The fields of a token may stand
under a key of their own. -/
def checks : Read α → List Check
  | networkConfig => [Schema.networkConfig.Takes, Schema.networkStatus.Takes]
  | networkStatus _ => [Schema.networkStatus.Takes]
  | networkEconomics => [Schema.networkEconomics.Takes]
  | account _ => [Schema.account.Takes]
  | accountStorageKey _ _ => [Schema.storageValue.Takes]
  | accountTokens _ => [Schema.accountTokens.Takes]
  | transactionArguments _ (some _) => [Schema.account.Takes]
  | transactionArguments _ none =>
    [Schema.networkConfig.Takes, Schema.networkStatus.Takes, Schema.account.Takes]
  | transactionCost _ => [Schema.transactionCost.Takes]
  | transaction _ _ => [Schema.transaction.Takes]
  | transactionStatus _ => [Schema.transactionStatus.Takes]
  | token _ => [fun data => Schema.token.Fits ((data.get? "tokenData").getD (.obj data))]
  | vmQuery _ => [Schema.vmQuery.Takes]
  | hyperBlockByNonce _ | hyperBlockByHash _ => [Schema.hyperblock.Takes]
  | latestHyperBlockNonce => [Client.TakesNonce]
  | initialWallets => [Schema.initialWallets.Takes]

/-- A read that takes its arguments asks of its payloads what is listed for it. -/
theorem checks_run {c : Client τ} (o : CallOptions τ) {r : Read α} (valid : r.Valid c) :
    (r.run c o).Checks r.checks fun _ => True := by
  cases r with
  | networkConfig => exact c.checks_getNetworkConfig o
  | networkStatus shard =>
    have slot := PathValue.fills_int valid
    exact (c.fetches_slot o .networkStatus rfl rfl slot).decoded Json.obj fun _ fits =>
      (fits.object_of_object "status" rfl rfl rfl).imp fun _ read => read.1
  | networkEconomics =>
    exact (c.fetches_fixed o .networkEconomics rfl nofun).decoded Json.obj fun _ fits =>
      NetworkEconomics.decode?_of_fits fits
  | account address => exact c.checks_getAccount o valid
  | accountStorageKey address key =>
    refine (Client.checks_require (Text.filled_coe valid.1)).bind fun _ _ => ?_
    refine (Client.checks_require (Text.filled_coe valid.2)).bind fun _ _ => ?_
    have asks := c.fetches_call o none true (Catalog.exists_route_key valid.1 valid.2)
    exact asks.decoded Json.obj fun _ fits => fits.text_of_object "value" rfl rfl rfl
  | accountTokens address =>
    refine (Client.checks_require (Text.filled_coe valid)).bind fun _ _ => ?_
    have slot := PathValue.fills_string valid
    exact (c.fetches_slot o .accountTokens rfl rfl slot).decoded Json.obj fun _ fits =>
      (fits.object_of_object "dcdts" rfl rfl rfl).imp fun _ read => read.1
  | transactionArguments address network =>
    have account : ∀ network : NetworkConfig, Action.Checks (do
        let account ← c.getAccount address o
        return TransactionArguments.of account network) [Schema.account.Takes] fun _ => True :=
      fun network => (c.checks_getAccount o valid).bind fun _ _ => .pure trivial
    cases network with
    | some network => exact account network
    | none => exact (c.checks_getNetworkConfig o).bind fun network _ => account network
  | transactionCost request =>
    exact (c.fetches_fixed o .transactionCost rfl nofun).decoded Json.obj fun _ fits =>
      TransactionCost.decode?_of_fits fits
  | transaction hash withResults =>
    exact c.checks_getTransaction o (Text.filled_coe valid) (Text.isSome_toString?_coe hash)
      withResults
  | transactionStatus hash =>
    refine (Client.checks_require (Text.filled_coe valid)).bind fun _ _ => ?_
    have slot := PathValue.fills_string valid
    refine (c.fetches_slot o .transactionStatus rfl rfl slot).validated Json.obj fun data fits => ?_
    obtain ⟨word, read⟩ := fits.text_of_object "status" rfl rfl rfl
    refine (Action.Checks.expect (R := fun _ => True) ⟨word, read, trivial⟩).bind fun word _ => ?_
    exact (c.checks_noteStatus word).bind fun _ _ => .pure trivial
  -- The paths of the two versions differ here, but for the name of the slot.
  | token identifier =>
    refine (Client.checks_require (Text.filled_coe valid)).bind fun _ _ => ?_
    have slot : (template c.config.apiVersion .token).slots = ["identifier"] := by
      cases c.config.apiVersion <;> rfl
    have asks : (c.read .token [("identifier", .text identifier)] o).Fetches :=
      c.fetches_slot o .token slot rfl (PathValue.fills_string valid)
    exact asks.decoded (fun data => (data.get? "tokenData").getD (.obj data)) fun _ fits =>
      TokenMetadata.decode?_of_fits fits
  | vmQuery query =>
    refine (Client.checks_require (Text.filled_coe valid.1)).bind fun _ _ => ?_
    refine (Client.checks_require (Text.filled_coe valid.2)).bind fun _ _ => ?_
    exact (c.fetches_fixed o .vmQuery rfl nofun).decoded Json.obj fun _ fits =>
      VmQueryResult.decode?_of_fits fits
  | hyperBlockByNonce nonce =>
    have natural : ¬ nonce < 0 := Int.not_lt.mpr valid.1
    have slot := PathValue.fills_int valid.2
    show (c.getHyperBlockByNonce nonce o).Checks _ _
    rw [Client.getHyperBlockByNonce, if_neg natural]
    exact (c.fetches_slot o .hyperblockByNonce rfl rfl slot).decoded Json.obj fun _ fits =>
      HyperBlock.decode?_of_fits fits
  | hyperBlockByHash hash =>
    refine (Client.checks_require (Text.filled_coe valid)).bind fun _ _ => ?_
    have slot := PathValue.fills_string valid
    exact (c.fetches_slot o .hyperblockByHash rfl rfl slot).decoded Json.obj fun _ fits =>
      HyperBlock.decode?_of_fits fits
  | latestHyperBlockNonce => exact c.checks_getLatestHyperBlockNonce o
  | initialWallets =>
    show (c.onSimulator _).Checks _ _
    rw [Client.onSimulator_eq valid]
    exact (c.fetches_fixed o .simulatorInitialWallets rfl fun _ => valid).validated Json.obj
      fun _ _ => .pure trivial

end Read

/-! ## Writes -/

namespace Write

/-- What a write asks of the payload of its call. -/
def check : Write α → Check
  | sendTransaction _ => Schema.transactionHash.Takes
  | sendTransactions _ => Schema.transactionHashes.Takes
  | generateBlocks _ | generateBlocksUntilTransactionProcessed _
  | generateBlocksUntilEpochReached _ | setState _ => fun _ => True

/-- A write that takes its arguments asks of its payload what is listed for it. -/
theorem checks_run (c : Client τ) (write : Write α) (accepted : write.Accepted c)
    (watching : Bool) : (write.run c watching).Checks [write.check] write.Answers := by
  have asks := c.fetches_call { watching } write.body false (route_of_accepted accepted)
  rw [run_eq_of_accepted accepted]
  cases write with
  | sendTransaction request =>
    exact asks.validated Json.obj fun _ fits => .expect fits.sentHash
  | sendTransactions requests =>
    refine asks.validated Json.obj fun data fits => ?_
    obtain ⟨receipt, read⟩ := BatchReceipt.decode?_of_fits fits requests.length
    refine (Action.Checks.expect (R := fun _ => True) ⟨receipt, read, trivial⟩).bind
      fun receipt _ => ?_
    split
    · exact (Action.Checks.aside (.warn ⟨_, rfl⟩)).bind fun _ _ => .pure trivial
    · exact .pure trivial
  | generateBlocks _ | generateBlocksUntilTransactionProcessed _
  | generateBlocksUntilEpochReached _ | setState _ =>
    exact asks.checked (P := fun _ => True) (F := fun _ => True) (fun _ _ => .pure trivial)
      fun _ fails => absurd trivial fails

end Write

/-! ## Transactions that are confirmed -/

namespace Simulator

/-- The answer to a request for blocks is not looked at. -/
theorem checks_generateBlocks (s : Simulator τ) {blocks : Int} (positive : 1 ≤ blocks)
    (short : Decimal.isWritable blocks = true) (watching : Bool) :
    (s.generateBlocks blocks watching).Checks [fun _ => True] fun _ => True := by
  have produces := (Write.generateBlocks blocks).checks_run s.client
    ⟨s.isSimulator, positive, short⟩ watching
  rwa [show (Write.generateBlocks blocks).run s.client watching = s.generateBlocks blocks watching
    from Client.onSimulator_eq s.isSimulator] at produces

/-- A hash that the transaction can be asked for by: it stands in an answer that fits, and has no
surrogate. -/
def TakesHash : Check := fun data => Schema.transactionHash.Takes data ∧
  ∃ hash : Text, data.text? "txHash" = some hash ∧ hash.toString?.isSome = true

/-- What follows the sending asks nothing of the first of its payloads: it is not looked at. -/
theorem checks_confirm (s : Simulator τ) {blocks : Int} (positive : 1 ≤ blocks)
    (short : Decimal.isWritable blocks = true) (withResults watching : Bool) {hash : Text}
    (filled : hash ≠ "") (known : hash.toString?.isSome = true) :
    (s.confirm blocks withResults watching hash).Checks
      [fun _ => True, Schema.transaction.Takes] fun _ => True := by
  refine (s.checks_generateBlocks positive short watching).bind fun _ _ => ?_
  refine (s.client.checks_getTransaction _ filled known withResults).bind fun tx _ => ?_
  split
  · exact (Action.Checks.aside (.warn ⟨_, rfl⟩)).bind fun _ _ => .pure trivial
  · exact .pure trivial

/-- Nothing is confirmed by a hash with a surrogate. -/
theorem confirm_of_unencodable (s : Simulator τ) (blocks : Int) (withResults watching : Bool)
    {hash : Text} (filled : hash ≠ "") (unknown : hash.toString? = none) :
    (s.confirm blocks withResults watching hash).Ensures (fun _ => True) (fun _ => True)
      fun _ => False := by
  refine Action.Ensures.bind (R := fun _ => True) .anything fun _ _ => ?_
  rw [s.client.getTransaction_of_unencodable _ filled unknown]
  exact .fail trivial

/-- A transaction that is sent and confirmed has three payloads, of which the second is not looked
at. -/
theorem checks_sendAndConfirm (s : Simulator τ) (request : TransactionRequest) {blocks : Int}
    (positive : 1 ≤ blocks) (short : Decimal.isWritable blocks = true)
    (withResults watching : Bool) :
    (s.sendAndConfirm request blocks withResults watching).Checks
      [TakesHash, fun _ => True, Schema.transaction.Takes] fun _ => True := by
  have accepted : (Write.sendTransaction request).Accepted s.client := trivial
  have asks := s.client.fetches_call { watching } (Write.sendTransaction request).body false
    (Write.route_of_accepted accepted)
  rw [sendAndConfirm_eq, Client.sendTransaction, Action.bind_assoc]
  refine asks.checked (P := fun _ => True) (F := fun _ => True) (fun data takes => ?_)
    fun data lacks => ?_
  · obtain ⟨fits, hash, found, known⟩ := takes
    obtain ⟨_, same, filled⟩ := Schema.Fits.sentHash fits
    cases found.symm.trans same
    rw [Client.validate_of_fits fits, found]
    exact s.checks_confirm positive short withResults watching filled known
  · rw [Action.bind_assoc]
    refine (Client.ensures_validate _ _ _ fun _ => trivial).bind fun _ fits => ?_
    obtain ⟨hash, found, filled⟩ := fits.sentHash
    rw [found]
    have unknown : hash.toString? = none := by
      rw [← Option.not_isSome_iff_eq_none]
      exact fun known => lacks ⟨fits, hash, found, known⟩
    exact s.confirm_of_unencodable blocks withResults watching filled unknown

end Simulator

/-! ## Commands -/

namespace Command

/-- What a command that is a chain of calls asks of the payloads of its calls, in their order. -/
def checks : Command τ α → Option (List Check)
  | read r => some r.checks
  | write w => some [w.check]
  | call .. => some [fun _ => True]
  | sendAndConfirm .. =>
    some [Simulator.TakesHash, fun _ => True, Schema.transaction.Takes]
  | poll .. | pause _ => none

/-- A command that takes its arguments asks of its payloads what is listed for it. -/
theorem checks_run {c : Client τ} (o : CallOptions τ) {command : Command τ α}
    (valid : command.Valid c) {checks : List Check} (chain : command.checks = some checks) :
    ∃ R, (command.run c o).Checks checks R := by
  cases command with
  | read r =>
    cases chain
    exact ⟨_, Read.checks_run o valid⟩
  | write w =>
    cases chain
    exact ⟨_, w.checks_run c valid o.watching⟩
  | call name values query body idempotent =>
    cases chain
    obtain ⟨route, resolves⟩ := valid
    obtain ⟨op, -, runs⟩ := Client.callNamed_eq_run resolves body idempotent o
    refine ⟨fun _ => True, ?_⟩
    show (c.callNamed name values query body idempotent o).Checks _ _
    rw [runs]
    intro log r traces undisturbed
    obtain ⟨data, rfl, payloads⟩ := Call.fetches_run _ traces undisturbed
    rw [payloads]
    exact ⟨.cons trivial .nil, trivial⟩
  | sendAndConfirm request blocks withResults =>
    cases chain
    obtain ⟨isSimulator, positive, short⟩ := valid
    refine ⟨fun _ => True, ?_⟩
    show (c.onSimulator _).Checks _ _
    rw [Client.onSimulator_eq isSimulator]
    exact Simulator.checks_sendAndConfirm ⟨c, isSimulator⟩ request positive short withResults
      o.watching
  | poll | pause => cases chain

/-- A command that takes its arguments has a result exactly if the payloads of its calls pass its
checks, where every request is answered with a payload and no signal comes in between. -/
theorem returns_iff (w : World σ τ) (s : σ) (c : Client τ) (o : CallOptions τ)
    (command : Command τ α) (valid : command.Valid c) {checks : List Check}
    (chain : command.checks = some checks) :
    let r := (command.run c o).runIn w s
    r.events.Undisturbed →
      ((∃ a, r.result = .ok a) ↔ ∀ pair ∈ checks.zip r.events.payloads, pair.1 pair.2) := by
  intro r undisturbed
  obtain ⟨R, checked⟩ := command.checks_run o valid chain
  exact checked.returns_iff (Action.traces_runIn _ w s) undisturbed

end Command
end GatewayClient
