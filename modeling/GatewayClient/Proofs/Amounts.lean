import GatewayClient.Proofs.Schema.Leaves
import GatewayClient.Proofs.Poll.Results
import GatewayClient.Proofs.Shapes

/-!
# Amounts of a result

Balances, values and the supply of a network are texts of decimal digits, and are kept as such.
`Command.amounts` lists those of a result, with their places in a payload.

**An amount is what the node wrote** (`Command.amounts_law`), to the letter, for every operation
that hands one over. It is a run of digits, but its schema asks for a line of digits: a line feed
behind them is let pass, and is part of the amount then (`Command.amount_with_line_feed`).
-/

set_option autoImplicit false

namespace GatewayClient

open Json (Fields)

/-! ## Amounts -/

/-- An amount of a result, and where a payload has it. -/
structure Amount where
  part : String
  key : String
  text : Text

namespace Amount

/-- A payload has the amount in its place. -/
def WrittenIn (amount : Amount) (data : Fields) : Prop :=
  ∃ inner, data.object? amount.part = some inner ∧ inner.text? amount.key = some amount.text

/-- The text is a run of digits, with or without a line feed behind it. -/
def IsLine (amount : Amount) : Prop :=
  amount.text.IsDigits ∨ ∃ digits : Text, digits.IsDigits ∧ amount.text = digits ++ ("\n" : Text)

/-- A line of digits is a run of digits if there is no line feed in it. -/
theorem IsLine.isDigits_iff {amount : Amount} (line : amount.IsLine) :
    amount.text.IsDigits ↔ .char '\n' ∉ amount.text.points := by
  constructor
  · intro run feed
    exact absurd (run.2 _ feed) (by decide)
  · intro none
    rcases line with run | ⟨digits, run, eq⟩
    · exact run
    · refine absurd ?_ none
      rw [eq, Text.append_points]
      exact List.mem_append_right _ (List.mem_singleton_self _)

/-- The amount is a line of digits that one of the payloads has in its place. -/
def Of (amount : Amount) (payloads : List Fields) : Prop :=
  (∃ data ∈ payloads, amount.WrittenIn data) ∧ amount.IsLine

/-- A payload whose schema wants a text of digits in the place has a line of digits there. -/
theorem of_takes {amount : Amount} {data : Fields} {payloads : List Fields}
    {required needed : List String} {parts fields : List (String × Schema)} {schema : Schema}
    (written : amount.WrittenIn data) (mem : data ∈ payloads)
    (takes : (Schema.object required parts).Takes data)
    (inside : parts.lookup amount.part = some schema)
    (object : schema = Schema.object needed fields)
    (named : fields.lookup amount.key = some Schema.digitText) : amount.Of payloads := by
  refine ⟨⟨data, mem, written⟩, ?_⟩
  obtain ⟨inner, found, text⟩ := written
  obtain ⟨value, there, read⟩ := Option.bind_eq_some_iff.mp text
  subst object
  have fits := Schema.Fits.value_of_part takes inside found named there
  obtain ⟨s, rfl, line⟩ := Schema.digitText_fits_iff.mp fits
  cases read
  exact line

end Amount

/-- The balance of an account. -/
def AccountInfo.amount (account : AccountInfo) : Amount := ⟨"account", "balance", account.balance⟩

/-- The value of a transaction. -/
def TransactionOnNetwork.amount (tx : TransactionOnNetwork) : Amount :=
  ⟨"transaction", "value", tx.value⟩

/-- The supply of a network. -/
def NetworkEconomics.amount (economics : NetworkEconomics) : Amount :=
  ⟨"metrics", "erd_total_supply", economics.totalSupply⟩

/-! ## What the decoders keep -/

section Decoders

variable {data : Fields} {payloads : List Fields}

/-- The balance of an account is a line of digits of its payload. -/
theorem AccountInfo.amount_of_payload {address : String} {account : AccountInfo}
    (mem : data ∈ payloads) (takes : Schema.account.Takes data)
    (read : ofPayload? data address = some account) : account.amount.Of payloads := by
  obtain ⟨inner, found, read⟩ := Option.bind_eq_some_iff.mp read
  exact Amount.of_takes ⟨inner, found, (of_decode? read).1⟩ mem takes rfl rfl rfl

/-- The supply of a network is a line of digits of its payload. -/
theorem NetworkEconomics.amount_of_payload {economics : NetworkEconomics}
    (mem : data ∈ payloads) (takes : Schema.networkEconomics.Takes data)
    (read : (data.object? "metrics").bind decode? = some economics) :
    economics.amount.Of payloads := by
  obtain ⟨inner, found, read⟩ := Option.bind_eq_some_iff.mp read
  exact Amount.of_takes ⟨inner, found, (of_decode? read).1⟩ mem takes rfl rfl rfl

/-- The value of a transaction is a line of digits of its payload. -/
theorem TransactionOnNetwork.amount_of_payload {hash : Text} {table : StatusTable}
    {tx : TransactionOnNetwork} (mem : data ∈ payloads) (takes : Schema.transaction.Takes data)
    (read : ofPayload? data hash table = some tx) : tx.amount.Of payloads := by
  obtain ⟨inner, found, read⟩ := Option.bind_eq_some_iff.mp read
  exact Amount.of_takes ⟨inner, found, (of_decode? read).1⟩ mem takes rfl rfl rfl

end Decoders

variable {σ τ α : Type} [TimeScale τ]

open GatewayClient.Action (Gives)

/-! ## The amounts of a command -/

/-- The value of a transaction that is sent and confirmed is one of its payloads' amounts. What the
calls before the last one answer does not matter. -/
theorem Simulator.gives_sendAndConfirm (s : Simulator τ) (request : TransactionRequest)
    (blocks : Int) (withResults watching : Bool) :
    (s.sendAndConfirm request blocks withResults watching).Gives fun payloads tx =>
      tx.amount.Of payloads := by
  have any : ∀ {β : Type} (x : Action τ β), x.Gives fun _ _ => True := fun _ _ _ _ => trivial
  refine (any _).bind fun sent hash _ => (any _).bind fun made _ _ => ?_
  refine (s.client.gives_getTransaction _ hash withResults).bind fun first tx asked => ?_
  obtain ⟨data, rfl, takes, read⟩ := asked
  have amount : tx.amount.Of (sent ++ (made ++ ([data] ++ []))) :=
    tx.amount_of_payload (by simp) takes read
  split
  · exact .after (F := fun _ => True) (.warn ⟨_, rfl⟩) fun _ _ => .pure amount
  · exact .pure amount

/-- The amounts of a result. -/
def Read.amounts : Read α → α → List Amount
  | networkEconomics, economics => [economics.amount]
  | account _, info => [info.amount]
  | transaction _ _, tx => [tx.amount]
  | networkConfig, _ | networkStatus _, _ | accountStorageKey _ _, _ | accountTokens _, _
  | transactionArguments _ _, _ | transactionCost _, _ | transactionStatus _, _ | token _, _
  | vmQuery _, _ | hyperBlockByNonce _, _ | hyperBlockByHash _, _ | latestHyperBlockNonce, _
  | initialWallets, _ => []

/-- The amounts of a read are lines of digits of its payloads. -/
theorem Read.amounts_of {r : Read α} {table : StatusTable} {payloads : List Fields} {a : α}
    (h : r.Reads table payloads a) : ∀ amount ∈ r.amounts a, amount.Of payloads := by
  cases r with
  | networkEconomics =>
    obtain ⟨data, rfl, takes, read⟩ := h.single rfl
    exact List.forall_mem_singleton.mpr
      (a.amount_of_payload (List.mem_singleton_self data) takes read)
  | account address =>
    obtain ⟨data, rfl, takes, read⟩ := h.single rfl
    exact List.forall_mem_singleton.mpr
      (a.amount_of_payload (List.mem_singleton_self data) takes read)
  | transaction hash withResults =>
    obtain ⟨data, rfl, takes, read⟩ := h.single rfl
    exact List.forall_mem_singleton.mpr
      (a.amount_of_payload (List.mem_singleton_self data) takes read)
  | networkConfig | networkStatus | accountStorageKey | accountTokens | transactionArguments
  | transactionCost | transactionStatus | token | vmQuery | hyperBlockByNonce | hyperBlockByHash
  | latestHyperBlockNonce | initialWallets => exact nofun

namespace Command

/-- The amounts of a result. A poll may have none. -/
def amounts : Command τ α → α → List Amount
  | read r, a => r.amounts a
  | sendAndConfirm _ _ _, tx => [tx.amount]
  | poll _ _, result => (result.transaction.map TransactionOnNetwork.amount).toList
  | write _, _ | call _ _ _ _ _, _ | pause _, _ => []

/-- The amounts of a command are lines of digits of its payloads. -/
theorem gives_amounts (c : Client τ) (o : CallOptions τ) (command : Command τ α) :
    (command.run c o).Gives fun payloads a => ∀ amount ∈ command.amounts a, amount.Of payloads := by
  cases command with
  | read r => exact (r.gives_run c o).mono fun _ _ => Read.amounts_of
  | sendAndConfirm request blocks withResults =>
    show (c.onSimulator _).Gives _
    unfold Client.onSimulator
    split
    next s _ =>
      exact (s.gives_sendAndConfirm request blocks withResults o.watching).mono fun _ _ amount =>
        List.forall_mem_singleton.mpr amount
    next => exact .fail _
  | poll hash withResults =>
    refine (Poll.gives_run _).mono fun payloads result shown amount mem => ?_
    obtain ⟨tx, last, rfl⟩ := Option.map_eq_some_iff.mp (Option.mem_toList.mp mem)
    obtain ⟨data, mem, takes, read⟩ := shown tx last
    exact tx.amount_of_payload mem takes read
  | write w => exact fun _ _ _ => nofun
  | call => exact fun _ _ _ => nofun
  | pause => exact fun _ _ _ => nofun

/-- An amount of a result is what a payload has in its place. It is a run of digits, with or without
a line feed behind it, and so it is a run of digits if it has no line feed, and only then. -/
theorem amounts_law {w : World σ τ} {s : σ} {c : Client τ} {o : CallOptions τ}
    {command : Command τ α} {a : α} (ok : ((command.run c o).runIn w s).result = .ok a) :
    ∀ amount ∈ command.amounts a,
      (∃ data ∈ ((command.run c o).runIn w s).events.payloads, amount.WrittenIn data) ∧
      (amount.text.IsDigits ∨
        ∃ digits : Text, digits.IsDigits ∧ amount.text = digits ++ ("\n" : Text)) ∧
      (amount.text.IsDigits ↔ .char '\n' ∉ amount.text.points) := by
  intro amount mem
  obtain ⟨written, line⟩ := (command.gives_amounts c o).of_runIn ok amount mem
  exact ⟨written, line, line.isDigits_iff⟩

/-- The balance of an account that is read. -/
theorem amounts_law_account :
    let account : Command Float AccountInfo := .read (.account "drt1")
    let r := (account.run .onThisMachine {}).runIn Script.world
      (.answering accountPayload.enveloped)
    ∃ a, r.result = .ok a ∧ ∀ amount ∈ account.amounts a,
      (∃ data ∈ r.events.payloads, amount.WrittenIn data) ∧
      (amount.text.IsDigits ∨
        ∃ digits : Text, digits.IsDigits ∧ amount.text = digits ++ ("\n" : Text)) ∧
      (amount.text.IsDigits ↔ .char '\n' ∉ amount.text.points) := by
  intro account r
  have balance : r.result.toOption.map (·.balance) = some ("100" : Text) := by decide +kernel
  obtain ⟨a, ok, -⟩ := exists_of_toOption balance
  exact ⟨a, ok, amounts_law ok⟩

/-! ## A line feed that is kept -/

/-- An account whose balance ends with a line feed. -/
def accountWithLineFeed : Json.Fields :=
  [("account", .obj [("balance", .str "100\n"), ("nonce", .num (.int 5))])]

/-- A balance that ends with a line feed is let pass, and kept. -/
theorem amount_with_line_feed :
    ∃ a, ((Read.account "drt1").answered accountWithLineFeed.enveloped).result = .ok a ∧
      a.balance = "100\n" ∧ ¬ a.balance.IsDigits := by
  have balance : ((Read.account "drt1").answered accountWithLineFeed.enveloped).result.toOption.map
      (·.balance) = some ("100\n" : Text) := by decide +kernel
  obtain ⟨a, ok, kept⟩ := exists_of_toOption balance
  refine ⟨a, ok, kept, ?_⟩
  rw [kept]
  exact fun run => absurd (run.2 (.char '\n') (by decide)) (by decide)

end Command

end GatewayClient
