import GatewayClient.Proofs.Client.Results
import GatewayClient.Proofs.Client.Tolerance

/-!
# Newer nodes

A newer node may say more about a network, an account, a transaction, a token, a block or the answer
of a contract than the client has names for. A client that is older than the node reads what it
knows, and passes on the rest.

**Further keys change nothing but `raw`** (`Command.compatibility_law`), which has all of them:
where two gateways differ in nothing but such keys, a command that reads a record goes the same way
with both of them, succeeds with both or with neither, and gives the same record.
-/

set_option autoImplicit false

namespace GatewayClient

open Json (Fields)
open Record (Tolerates)

variable {σ σ' τ α : Type} [TimeScale τ]

/-! ## Commands that read a record -/

/-- The record that a command reads, if it reads one. -/
def Command.record? : {α : Type} → Command τ α → Option (Record α)
  | _, .read .networkConfig => some NetworkConfig.record
  | _, .read .networkEconomics => some NetworkEconomics.record
  | _, .read (.account _) => some AccountInfo.record
  | _, .read (.transaction _ _) | _, .sendAndConfirm .. => some TransactionOnNetwork.record
  | _, .read (.token _) => some TokenMetadata.record
  | _, .read (.vmQuery _) => some VmQueryResult.record
  | _, .read (.hyperBlockByNonce _) | _, .read (.hyperBlockByHash _) => some HyperBlock.record
  | _, _ => none

/-- The place, among the payloads of a command, of the one that its record is read from. -/
def Command.recordAt : Command τ α → Nat
  | .sendAndConfirm .. => 2
  | _ => 0

/-- A read that gives a record goes the same way whatever further keys there are. -/
theorem Read.tolerates {read : Read α} {rec : Record α}
    (kind : (Command.read read : Command τ α).record? = some rec) (c : Client τ)
    (o : CallOptions τ) : rec.Tolerates (read.run c o) := by
  -- a read of anything but a record has no kind
  cases read <;> cases kind
  case networkConfig =>
    exact Record.tolerates_getNetworkConfig c o
  case networkEconomics =>
    exact .decoded c .networkEconomics [] [] none true o rfl NetworkEconomics.checks_record
      NetworkEconomics.readBy_record "network economics"
  case account address =>
    refine .following (Client.aside_require "address" address).respects fun _ => ?_
    exact .decoded c .account _ [] none true o rfl AccountInfo.checks_record
      (AccountInfo.readBy_record address) "account"
  case transaction hash withResults =>
    exact Record.tolerates_getTransaction c o hash withResults
  case token identifier =>
    refine .following (Client.aside_require "identifier" identifier).respects fun _ => ?_
    refine .checked c .token _ [] none true o
      (fun data => Client.validate Schema.token "token" (TokenMetadata.record.part data))
      (fun data => Action.expect "token"
        ((TokenMetadata.record.part data).fields?.bind TokenMetadata.decode?))
      (fun p p' widens => ?_) (fun p p' widens β f blind => ?_)
      (fun p => Client.aside_validate _ _ _) fun p => .aside (.expect _ _)
    · exact Client.validate_congr _ (TokenMetadata.violations_part widens)
    · exact Action.expect_bind_congr _ (widens.map_decode TokenMetadata.readBy_record blind)
  case vmQuery query =>
    refine .following (Client.aside_require "sc_address" query.scAddress).respects fun _ => ?_
    refine .following (Client.aside_require "func_name" query.funcName).respects fun _ => ?_
    exact .decoded c .vmQuery [] [] _ true o rfl VmQueryResult.checks_record
      VmQueryResult.readBy_record "vm query"
  case hyperBlockByNonce nonce =>
    show Tolerates _ (c.getHyperBlockByNonce nonce o)
    unfold Client.getHyperBlockByNonce
    split
    · exact .aside (.fail trivial)
    · exact Record.tolerates_readHyperBlock c o _ _
  case hyperBlockByHash hash =>
    refine .following (Client.aside_require "block_hash" hash).respects fun _ => ?_
    exact Record.tolerates_readHyperBlock c o _ _

/-- A command that reads a record goes the same way whatever further keys there are. -/
theorem Command.tolerates {command : Command τ α} {rec : Record α}
    (kind : command.record? = some rec) (c : Client τ) (o : CallOptions τ) :
    rec.Tolerates (command.run c o) := by
  cases command with
  | read r => exact r.tolerates kind c o
  | sendAndConfirm request blocks withResults =>
    cases kind
    show Tolerates _ (c.onSimulator _)
    unfold Client.onSimulator
    split
    next s _ => exact Record.tolerates_sendAndConfirm s request blocks withResults o.watching
    next => exact .aside (.fail trivial)
  | write | call | poll | pause => cases kind

/-! ## Where a record comes from -/

section Origin

open GatewayClient.Action (Gives)

/-- How the record that is a result goes with the payloads: it is read from one of them, and keeps
the object there. -/
def Record.KeptAt (rec : Record α) (i : Nat) (payloads : List Fields) (a : α) : Prop :=
  ∃ p, payloads[i]? = some p ∧ rec.part p = .obj (rec.raw a)

omit [TimeScale τ] in
/-- A record that is read from under its key in the first payload. -/
theorem Record.ReadBy.keptAt {rec : Record α} {decode : Fields → Option α}
    (reads : rec.ReadBy decode) (strict : rec.bare = false) {p : Fields} {rest : List Fields}
    {a : α}
    (found : (p.object? rec.key).bind decode = some a) : rec.KeptAt 0 (p :: rest) a := by
  obtain ⟨o, here, read⟩ := Option.bind_eq_some_iff.mp found
  rw [← Record.fields?_part strict] at here
  exact ⟨p, rfl, reads.part_eq here read⟩

omit [TimeScale τ] in
/-- A record that is read from its payload alone. -/
theorem Record.ReadBy.keptAt_of_single {rec : Record α} {decode : Fields → Option α}
    (reads : rec.ReadBy decode) (strict : rec.bare = false) {read : Read α} {check : Check}
    (one : read.checks = [check]) {table : StatusTable}
    (decodes : ∀ p, read.decode? table [p] = (p.object? rec.key).bind decode)
    {payloads : List Fields} {a : α} (h : read.Reads table payloads a) :
    rec.KeptAt 0 payloads a := by
  obtain ⟨p, rfl, -, found⟩ := h.single one
  exact reads.keptAt strict ((decodes p).symm.trans found)

/-- The record that a read gives is read from the payload of its first call. -/
theorem Read.gives_record {read : Read α} {rec : Record α}
    (kind : (Command.read read : Command τ α).record? = some rec) (c : Client τ)
    (o : CallOptions τ) : (read.run c o).Gives (rec.KeptAt 0) := by
  have gives := read.gives_run c o
  cases read <;> cases kind
  case networkConfig =>
    refine (c.gives_getNetworkConfig o).mono fun payloads network h => ?_
    obtain ⟨config, status, rfl, -, -, found⟩ := h
    obtain ⟨object, here, found⟩ := Option.bind_eq_some_iff.mp found
    obtain ⟨metrics, -, read⟩ := Option.bind_eq_some_iff.mp found
    exact (NetworkConfig.readBy_record metrics).keptAt rfl
      (Option.bind_eq_some_iff.mpr ⟨object, here, read⟩)
  case networkEconomics =>
    exact gives.mono fun _ _ =>
      NetworkEconomics.readBy_record.keptAt_of_single rfl rfl fun _ => rfl
  case account address =>
    exact gives.mono fun _ _ =>
      (AccountInfo.readBy_record address).keptAt_of_single rfl rfl fun _ => rfl
  case transaction hash withResults =>
    exact gives.mono fun _ _ =>
      (TransactionOnNetwork.readBy_record hash c.statusTable).keptAt_of_single rfl rfl fun _ => rfl
  case token identifier =>
    refine gives.mono fun payloads token h => ?_
    obtain ⟨data, rfl, -, found⟩ := h.single rfl
    obtain ⟨object, here, read⟩ := Option.bind_eq_some_iff.mp found
    exact ⟨data, rfl, TokenMetadata.readBy_record.part_eq here read⟩
  case vmQuery query =>
    exact gives.mono fun _ _ => VmQueryResult.readBy_record.keptAt_of_single rfl rfl fun _ => rfl
  case hyperBlockByNonce nonce =>
    exact gives.mono fun _ _ => HyperBlock.readBy_record.keptAt_of_single rfl rfl fun _ => rfl
  case hyperBlockByHash hash =>
    exact gives.mono fun _ _ => HyperBlock.readBy_record.keptAt_of_single rfl rfl fun _ => rfl

/-- A transaction that is sent and confirmed is read from the payload of the third call. -/
theorem Simulator.gives_record (s : Simulator τ) (request : TransactionRequest) (blocks : Int)
    (withResults watching : Bool) : (s.sendAndConfirm request blocks withResults watching).Gives
      (TransactionOnNetwork.record.KeptAt 2) := by
  have sends : (s.client.sendTransaction request watching).Gives fun payloads _ =>
      ∃ data, payloads = [data] := by
    have answered := Gives.decoded (s.client.gives_call { watching } .sendTransaction [] []
      (some request.payload) false) Schema.transactionHash "send transaction" .obj
      (·.text? "txHash")
    exact answered.mono fun payloads hash ⟨data, only, _⟩ => ⟨data, only⟩
  have produces : (s.generateBlocks blocks watching).Gives fun payloads _ =>
      ∃ data, payloads = [data] := by
    unfold Simulator.generateBlocks
    split
    · exact .fail _
    · refine (s.client.gives_call _ _ _ _ _ _).bind fun first data only => .pure ⟨data, ?_⟩
      rw [only, List.append_nil]
  refine sends.bind fun _ hash sent => produces.bind fun _ _ made => ?_
  obtain ⟨sending, rfl⟩ := sent
  obtain ⟨making, rfl⟩ := made
  refine (s.client.gives_getTransaction _ hash withResults).bind fun _ tx asked => ?_
  obtain ⟨data, rfl, -, found⟩ := asked
  obtain ⟨p, here, part⟩ : TransactionOnNetwork.record.KeptAt 0 [data] tx :=
    (TransactionOnNetwork.readBy_record hash s.client.statusTable).keptAt rfl found
  have kept : TransactionOnNetwork.record.KeptAt 2 ([sending] ++ ([making] ++ ([data] ++ []))) tx :=
    ⟨p, here, part⟩
  split
  · exact .after (F := fun _ => True) (.warn ⟨_, rfl⟩) fun _ _ => .pure kept
  · exact .pure kept

/-- The record that a command gives is read from one of its payloads, and keeps the object that it
is read from. -/
theorem Command.gives_record {command : Command τ α} {rec : Record α}
    (kind : command.record? = some rec) (c : Client τ) (o : CallOptions τ) :
    (command.run c o).Gives (rec.KeptAt command.recordAt) := by
  cases command with
  | read r => exact r.gives_record kind c o
  | sendAndConfirm request blocks withResults =>
    cases kind
    show (c.onSimulator _).Gives _
    unfold Client.onSimulator
    split
    next s _ => exact s.gives_record request blocks withResults o.watching
    next => exact .fail _
  | write | call | poll | pause => cases kind

end Origin

/-! ## The law of further keys -/

/-- **Further keys change nothing but `raw`.** Two gateways that differ in nothing but further keys
of the object that a command reads as a record are dealt with in the same way, step by step. The
command ends with the same error, or with the same record but for `raw`. That is the object as it
came, with all its keys. -/
theorem Command.compatibility_law {command : Command τ α} {rec : Record α}
    (kind : command.record? = some rec) {w : World σ τ} {v : World σ' τ} {Same : σ → σ' → Prop}
    (mirrors : w.Mirrors rec.Grown Same v) {s : σ} {s' : σ'} (start : Same s s') (c : Client τ)
    (o : CallOptions τ) :
    let r := (command.run c o).runIn w s
    let r' := (command.run c o).runIn v s'
    List.Forall₂ (Event.Mirrors rec.Grown) r.events r'.events ∧
      r'.result.map (rec.withRaw []) = r.result.map (rec.withRaw []) ∧
      ∀ a, r.result = .ok a → ∃ a' p p', r'.result = .ok a' ∧ a' = rec.withRaw (rec.raw a') a ∧
        r.events.payloads[command.recordAt]? = some p ∧ rec.part p = .obj (rec.raw a) ∧
        r'.events.payloads[command.recordAt]? = some p' ∧ rec.part p' = .obj (rec.raw a') ∧
        Fields.Grows rec.names (rec.raw a) (rec.raw a') := by
  intro r r'
  -- the result without `raw` is the same; where `raw` comes from is a matter of each run alone
  have tolerated := command.tolerates kind c o (fun a => pure (rec.withRaw [] a))
    (fun _ a => congrArg pure (rec.withRaw_withRaw [] _ a)) fun a => .pure _
  have agree := tolerated.runIn_alike mirrors start
  rw [Action.runIn_map, Action.runIn_map] at agree
  have events : List.Forall₂ (Event.Mirrors rec.Grown) r.events r'.events := agree.events
  have same : r.result.map (rec.withRaw []) = r'.result.map (rec.withRaw []) := agree.result_eq
  refine ⟨events, same.symm, fun a ok => ?_⟩
  rw [ok] at same
  cases ended : r'.result with
  | error failure =>
    rw [ended] at same
    cases same
  | ok a' =>
    rw [ended] at same
    have rest : rec.withRaw [] a = rec.withRaw [] a' := Except.ok.inj same
    obtain ⟨p, here, part⟩ := (command.gives_record kind c o).of_runIn ok
    obtain ⟨p', there, part'⟩ := (command.gives_record kind c o).of_runIn ended
    have widens : rec.Widens p p' := by
      obtain ⟨_, pairs⟩ := List.forall₂_iff_get.mp (Record.widens_payloads events)
      obtain ⟨inside, rfl⟩ := List.getElem?_eq_some_iff.mp here
      obtain ⟨inside', rfl⟩ := List.getElem?_eq_some_iff.mp there
      exact pairs _ inside inside'
    refine ⟨a', p, p', rfl, ?_, here, part, there, part', widens.grows part part'⟩
    calc a' = rec.withRaw (rec.raw a') (rec.withRaw [] a') := by
          rw [rec.withRaw_withRaw, rec.withRaw_raw]
      _ = rec.withRaw (rec.raw a') a := by rw [← rest, rec.withRaw_withRaw]

section Minted

/-- A token as the client knows tokens. -/
def knownToken : Fields :=
  [("identifier", .str "WREWA-abcdef"), ("name", .str "WrappedREWA"), ("decimals", .num (.int 18))]

/-- The token as a newer node tells it, with further keys in front and in between. -/
def newerToken : Fields :=
  [("canMint", .bool true), ("identifier", .str "WREWA-abcdef"), ("name", .str "WrappedREWA"),
    ("roles", .arr [.obj [("address", .null)]]), ("decimals", .num (.int 18))]

/-- The newer token has the keys of the other one, and further ones. -/
theorem widens_newerToken : TokenMetadata.record.Widens knownToken newerToken := by
  refine .whole rfl rfl ?_
  exact .insert _ (by decide) (.keep _ (.keep _ (.insert _ (by decide) (.keep _ .nil))))

/-- The token is read from both nodes, and differs in `raw` alone. -/
theorem Command.compatibility_law_token :
    let token : Command Float TokenMetadata := .read (.token "WREWA-abcdef")
    let r := (token.run .onThisMachine {}).runIn Script.world (.answering knownToken.enveloped)
    let r' := (token.run .onThisMachine {}).runIn Script.world (.answering newerToken.enveloped)
    token.record? = some TokenMetadata.record ∧
      TokenMetadata.record.Widens knownToken newerToken ∧
      ∃ a, r.result = .ok a ∧ a.name = "WrappedREWA" ∧ a.raw = knownToken ∧
        r'.result = .ok { a with raw := newerToken } := by
  intro token r r'
  have body : (Response.ofBody knownToken.enveloped).body? = some knownToken.enveloped := by
    decide +kernel
  have body' : (Response.ofBody newerToken.enveloped).body? = some newerToken.enveloped := by
    decide +kernel
  have grown : TokenMetadata.record.Grown (.response (.ofBody knownToken.enveloped))
      (.response (.ofBody newerToken.enveloped)) :=
    .enveloped widens_newerToken ⟨rfl, _, body, rfl, rfl, rfl⟩ ⟨rfl, _, body', rfl, rfl, rfl⟩
  have start : (Script.answering knownToken.enveloped).Mirrors TokenMetadata.record.Grown
      (.answering newerToken.enveloped) :=
    ⟨.cons ⟨.some grown, rfl, rfl⟩ .nil, .nil, rfl, rfl, rfl, rfl, rfl⟩
  have named : r.result.toOption.map (·.name) = some "WrappedREWA" := by decide +kernel
  obtain ⟨a, ok, name⟩ := exists_of_toOption named
  have kind : token.record? = some TokenMetadata.record := rfl
  obtain ⟨-, -, law⟩ := Command.compatibility_law kind (Script.mirrors_world .same) start
    .onThisMachine {}
  obtain ⟨a', p, p', ok', same, here, part, there, part', -⟩ := law a ok
  have payloads : r.events.payloads = [knownToken] := by decide +kernel
  have payloads' : r'.events.payloads = [newerToken] := by decide +kernel
  change r.events.payloads[0]? = some p at here
  change r'.events.payloads[0]? = some p' at there
  rw [payloads] at here
  rw [payloads'] at there
  cases here
  cases there
  refine ⟨kind, widens_newerToken, a, ok, name, (Json.obj.inj part).symm, ?_⟩
  rw [ok', same, ← Json.obj.inj part']
  rfl

end Minted
end GatewayClient
