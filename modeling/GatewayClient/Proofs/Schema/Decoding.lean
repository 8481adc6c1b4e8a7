import GatewayClient.Payload.Account
import GatewayClient.Payload.HyperBlock
import GatewayClient.Payload.Transaction
import GatewayClient.Payload.VmQuery
import GatewayClient.Schema.Payload

/-!
# What fits its schema can be read

A schema names what its decoder takes out of a payload. So a payload that fits its schema is one
that the decoder reads: what a decoder requires is there and of its kind.

**Reading never fails** (`decode?_of_fits` of each payload): a payload is refused where it is
checked, and nowhere after that.
-/

set_option autoImplicit false

namespace GatewayClient

open Json (Fields)

/-- A function that reads each item of a list reads the list. -/
theorem exists_mapM_eq_some {α β : Type} {f : α → Option β} {items : List α}
    (each : ∀ item ∈ items, ∃ b, f item = some b) : ∃ bs, items.mapM f = some bs := by
  induction items with
  | nil => exact ⟨[], rfl⟩
  | cons item rest ih =>
    obtain ⟨⟨b, read⟩, others⟩ := List.forall_mem_cons.mp each
    obtain ⟨bs, reads⟩ := ih others
    exact ⟨b :: bs, by rw [List.mapM_cons, read, reads]; rfl⟩

/-! ## Kinds -/

namespace JsonKind

/-- Every value of the kind can be read. -/
def ReadBy {α : Type} (kind : JsonKind) (read : Json → Option α) : Prop :=
  ∀ value, kind.admits value = true → ∃ a, read value = some a

/-- Every string has a text. -/
theorem readBy_text : ReadBy .string Json.text? := by
  intro value admitted
  cases value with
  | str s => exact ⟨s, rfl⟩
  | null | bool _ | num _ | arr _ | obj _ => cases admitted

theorem readBy_number : ReadBy .integer Json.number? := by
  intro value admitted
  cases value with
  | num n => exact ⟨n, rfl⟩
  | null | bool _ | str _ | arr _ | obj _ => cases admitted

theorem readBy_items : ReadBy .array Json.items? := by
  intro value admitted
  cases value with
  | arr items => exact ⟨items, rfl⟩
  | null | bool _ | num _ | str _ | obj _ => cases admitted

theorem readBy_fields : ReadBy .object Json.fields? := by
  intro value admitted
  cases value with
  | obj fields => exact ⟨fields, rfl⟩
  | null | bool _ | num _ | str _ | arr _ => cases admitted

end JsonKind

/-! ## What fits -/

namespace Schema

/-- A schema of one kind admits that kind. -/
theorem admits_singleton {kind : JsonKind} {j : Json} : admits [kind] j = kind.admits j :=
  Bool.or_false _

/-- Nothing is wrong with the value. -/
def Fits (schema : Schema) (j : Json) : Prop := schema.violations j = []

instance (schema : Schema) (j : Json) : Decidable (schema.Fits j) :=
  inferInstanceAs (Decidable (schema.violations j = []))

/-- The kinds that a schema asks for. -/
def kinds : Schema → List JsonKind
  | .mk kinds .. => kinds

/-- A check lets pass what fits, and nothing else. -/
theorem validate_eq_ok_iff {τ : Type} {schema : Schema} {what : String} {j : Json} :
    (schema.validate what j : Except (ApiError τ) Unit) = .ok () ↔ schema.Fits j := by
  unfold validate Fits
  cases schema.violations j with
  | nil => exact ⟨fun _ => rfl, fun _ => rfl⟩
  | cons v rest => exact ⟨nofun, nofun⟩

section Malformed

variable {τ : Type} {schema : Schema} {what : String} {j : Json} {e : ApiError τ}

/-- The error of a payload that is malformed. -/
theorem kind_of_validate (malformed : schema.validate what j = .error e) : e.kind = .decode := by
  unfold validate at malformed
  split at malformed
  · cases malformed
  · cases malformed
    rfl

/-- The error of a payload that is malformed counts no requests. -/
theorem attempts_of_validate (malformed : schema.validate what j = .error e) : e.attempts = 0 := by
  unfold validate at malformed
  split at malformed
  · cases malformed
  · cases malformed
    rfl

end Malformed

/-! ## What is read of it -/

namespace Fits

variable {schema : Schema} {j : Json} {required : List String} {fields : List (String × Schema)}
variable {data : Fields} {key : String}

/-- What fits is of a kind that the schema asks for. -/
theorem admits_kinds (h : schema.Fits j) : admits schema.kinds j = true := by
  obtain ⟨kinds, required, fields, others, items, atLeast, nonEmpty, digits⟩ := schema
  unfold Fits violations at h
  simp only [List.append_eq_nil_iff] at h
  obtain ⟨⟨⟨⟨⟨kind, -⟩, -⟩, -⟩, -⟩, -⟩ := h
  by_cases fits : admits kinds j = true
  · exact fits
  · rw [if_neg fits] at kind
    cases kind

/-- The value of a key that a schema names fits the schema that it names for it. -/
theorem value_of_fields {value : Json} (h : fieldViolations fields (.obj data) = [])
    (named : fields.lookup key = some schema) (found : data.get? key = some value) :
    schema.Fits value := by
  induction fields with
  | nil => cases named
  | cons field rest ih =>
    obtain ⟨name, first⟩ := field
    unfold fieldViolations at h
    obtain ⟨own, others⟩ := List.append_eq_nil_iff.mp h
    rw [List.lookup_cons] at named
    split at named
    next same =>
      cases named
      cases eq_of_beq same
      have found : (Json.obj data).get? key = some value := found
      rw [found] at own
      exact List.map_eq_nil_iff.mp own
    next => exact ih others named

/-- A text that must not be empty is not. -/
theorem ne_empty {t : Text} (h : nonEmptyText.Fits (.str t)) : t ≠ "" := by
  rintro rfl
  cases h

/-- What is required is there. -/
theorem isSome_of_required (h : (object required fields).Fits (.obj data))
    (needed : required.contains key = true) : (data.get? key).isSome = true := by
  unfold Fits object violations ownMessages at h
  simp only [List.append_eq_nil_iff, List.map_eq_nil_iff] at h
  obtain ⟨⟨⟨⟨⟨-, missing⟩, -⟩, -⟩, -⟩, -⟩ := h
  have present := List.filter_eq_nil_iff.mp missing key (List.contains_iff_mem.mp needed)
  rwa [Bool.not_eq_true, Option.isNone_eq_false_iff] at present

/-- The parts of an object that fits have no violations. -/
theorem fields_eq_nil (h : (object required fields).Fits (.obj data)) :
    fieldViolations fields (.obj data) = [] := by
  unfold Fits object violations at h
  simp only [List.append_eq_nil_iff] at h
  obtain ⟨⟨⟨⟨-, parts⟩, -⟩, -⟩, -⟩ := h
  exact parts

/-- A required key that a schema names has a value, which fits. -/
theorem value_of_object (h : (object required fields).Fits (.obj data)) (key : String)
    (needed : required.contains key = true) (named : fields.lookup key = some schema) :
    ∃ value, data.get? key = some value ∧ schema.Fits value := by
  obtain ⟨value, found⟩ := Option.isSome_iff_exists.mp (h.isSome_of_required needed)
  exact ⟨value, found, value_of_fields h.fields_eq_nil named found⟩

/-- A required value can be read, if the values of its kind can. -/
theorem read_of_object {α : Type} {read : Json → Option α} {kind : JsonKind}
    (reads : kind.ReadBy read) (h : (object required fields).Fits (.obj data)) (key : String)
    (needed : required.contains key = true) (named : fields.lookup key = some schema)
    (kinds : schema.kinds = [kind]) :
    ∃ value a, data.get? key = some value ∧ schema.Fits value ∧ read value = some a := by
  obtain ⟨value, found, fits⟩ := h.value_of_object key needed named
  have admitted := fits.admits_kinds
  rw [kinds, admits_singleton] at admitted
  obtain ⟨a, read⟩ := reads value admitted
  exact ⟨value, a, found, fits, read⟩

/-- A required text can be read. -/
theorem text_of_object (h : (object required fields).Fits (.obj data)) (key : String)
    (needed : required.contains key = true) (named : fields.lookup key = some schema)
    (kinds : schema.kinds = [.string]) : ∃ s, data.text? key = some s := by
  obtain ⟨_, s, found, -, read⟩ := h.read_of_object JsonKind.readBy_text key needed named kinds
  exact ⟨s, by rw [Fields.text?, found, Option.bind_some, read]⟩

/-- A required number can be read. -/
theorem number_of_object (h : (object required fields).Fits (.obj data)) (key : String)
    (needed : required.contains key = true) (named : fields.lookup key = some schema)
    (kinds : schema.kinds = [.integer]) : ∃ n, data.number? key = some n := by
  obtain ⟨_, n, found, -, read⟩ := h.read_of_object JsonKind.readBy_number key needed named kinds
  exact ⟨n, by rw [Fields.number?, found, Option.bind_some, read]⟩

/-- A required object can be read, and fits. -/
theorem object_of_object (h : (object required fields).Fits (.obj data)) (key : String)
    (needed : required.contains key = true) (named : fields.lookup key = some schema)
    (kinds : schema.kinds = [.object]) : ∃ inner, data.object? key = some inner ∧
      schema.Fits (.obj inner) := by
  obtain ⟨value, inner, found, fits, read⟩ :=
    h.read_of_object JsonKind.readBy_fields key needed named kinds
  cases value with
  | obj same =>
    cases read
    exact ⟨inner, by rw [Fields.object?, found]; rfl, fits⟩
  | null | bool _ | num _ | str _ | arr _ => cases read

/-- A value in a part of an object fits the schema that the schema of the part names for it. -/
theorem value_of_part {needed : List String} {parts : List (String × Schema)} {part : String}
    {inner : Fields} {value : Json} (h : (object required parts).Fits (.obj data))
    (inside : parts.lookup part = some (object needed fields))
    (found : data.object? part = some inner) (named : fields.lookup key = some schema)
    (there : inner.get? key = some value) : schema.Fits value := by
  obtain ⟨whole, present, object⟩ := Option.bind_eq_some_iff.mp found
  have fits := value_of_fields h.fields_eq_nil inside present
  cases whole with
  | obj same =>
    cases object
    exact value_of_fields (fields_eq_nil fits) named there
  | null | bool _ | num _ | str _ | arr _ => cases object

/-- What may be missing can be read, if the values of its kind can: its schema admits that kind, and
nothing else but null. -/
theorem optional_of_object {α : Type} {read : Json → Option α} {kind : JsonKind}
    (reads : kind.ReadBy read) (h : (object required fields).Fits (.obj data)) (key : String)
    (named : fields.lookup key = some schema)
    (kinds : schema.kinds = [kind] ∨ schema.kinds = [kind, .null]) :
    ∃ a, data.optional? key read = some a := by
  unfold Fields.optional?
  split
  next => exact ⟨none, rfl⟩
  next => exact ⟨none, rfl⟩
  next value other found =>
    have admitted := (value_of_fields h.fields_eq_nil named found).admits_kinds
    have ofKind : kind.admits value = true := by
      rcases kinds with one | two
      · rwa [one, admits_singleton] at admitted
      · have something : JsonKind.admits .null value = false := by
          cases value with
          | null => exact absurd rfl other
          | bool _ | num _ | str _ | arr _ | obj _ => rfl
        simpa [two, admits, something] using admitted
    obtain ⟨a, read⟩ := reads value ofKind
    exact ⟨some a, by rw [read]; rfl⟩

/-- A text that may be missing can be read. -/
theorem filled_of_object (h : (object required fields).Fits (.obj data)) (key : String)
    (named : fields.lookup key = some schema)
    (kinds : schema.kinds = [.string] ∨ schema.kinds = [.string, .null]) :
    ∃ s, data.filled? key = some s := by
  obtain ⟨s, read⟩ := h.optional_of_object JsonKind.readBy_text key named kinds
  exact ⟨_, by rw [Fields.filled?, read]; rfl⟩

/-- Items that may be missing can be read. -/
theorem items_of_object (h : (object required fields).Fits (.obj data)) (key : String)
    (named : fields.lookup key = some schema)
    (kinds : schema.kinds = [.array] ∨ schema.kinds = [.array, .null]) :
    ∃ items, data.items? key = some items := by
  obtain ⟨items, read⟩ := h.optional_of_object JsonKind.readBy_items key named kinds
  exact ⟨_, by rw [Fields.items?, read]; rfl⟩

/-- What fits a schema of objects is an object. -/
theorem fields_of_kinds (h : schema.Fits j) (kind : schema.kinds = [.object]) :
    ∃ data, j = .obj data := by
  have admitted := h.admits_kinds
  rw [kind] at admitted
  cases j with
  | obj data => exact ⟨data, rfl⟩
  | null | bool _ | num _ | str _ | arr _ => cases admitted

/-- An item of an array fits the schema of its items. -/
theorem of_mem_items {kinds : List JsonKind} {items : List Json}
    (h : (arrayOr kinds schema).Fits (.arr items)) : ∀ item ∈ items, schema.Fits item := by
  intro item mem
  unfold Fits arrayOr violations itemViolations at h
  simp only [List.append_eq_nil_iff] at h
  obtain ⟨⟨-, each⟩, -⟩ := h
  obtain ⟨i, bound, rfl⟩ := List.mem_iff_getElem.mp mem
  have place : (items[i], i) ∈ items.zipIdx := List.mk_mem_zipIdx_iff_getElem?.mpr
    (List.getElem?_eq_getElem bound)
  exact List.map_eq_nil_iff.mp (List.flatMap_eq_nil_iff.mp each _ place)

/-- Texts in an array that may be missing can be read. -/
theorem texts_of_object (h : (object required fields).Fits (.obj data)) (key : String)
    (named : fields.lookup key = some (arrayOr [.null] (any [.string]))) :
    ∃ texts, (data.items? key).bind (·.mapM Json.text?) = some texts := by
  have each : ∀ {items : List Json}, data.items? key = some items →
      ∀ item ∈ items, ∃ s, item.text? = some s := by
    intro items read item mem
    unfold Fields.items? Fields.optional? at read
    cases found : data.get? key with
    | none => rw [found] at read; cases read; cases mem
    | some value =>
      rw [found] at read
      cases value with
      | arr all =>
        cases read
        have fits := (value_of_fields h.fields_eq_nil named found).of_mem_items item mem
        have admitted := fits.admits_kinds
        exact JsonKind.readBy_text item (admits_singleton ▸ admitted)
      | null => cases read; cases mem
      | bool _ | num _ | str _ | obj _ => cases read
  obtain ⟨items, read⟩ := h.items_of_object key named (.inr rfl)
  obtain ⟨texts, reads⟩ := exists_mapM_eq_some (each read)
  exact ⟨texts, by rw [read, Option.bind_some, reads]⟩

/-- A value of an object whose values all follow one schema fits it. -/
theorem value_of_mapOf {name : Text} {value : Json} (h : (mapOf schema).Fits (.obj data))
    (found : data.get? name = some value) : schema.Fits value := by
  unfold Fits mapOf violations otherViolations at h
  simp only [List.append_eq_nil_iff, List.flatMap_eq_nil_iff, List.map_eq_nil_iff] at h
  obtain ⟨⟨⟨-, each⟩, -⟩, -⟩ := h
  obtain ⟨field, place, rfl⟩ := Option.map_eq_some_iff.mp found
  refine each field (List.mem_filter.mpr ⟨List.mem_of_find?_eq_some place, rfl⟩)

/-- A text of such an object can be read, whether or not it is there. -/
theorem text_of_mapOf (h : (mapOf (any [.string])).Fits (.obj data)) (key : String) :
    ∃ s, data.optional? key Json.text? = some s := by
  unfold Fields.optional?
  split
  next => exact ⟨none, rfl⟩
  next => exact ⟨none, rfl⟩
  next value _ found =>
    have admitted := (h.value_of_mapOf found).admits_kinds
    obtain ⟨s, read⟩ := JsonKind.readBy_text value (admits_singleton ▸ admitted)
    exact ⟨some s, by rw [read]; rfl⟩

end Fits
end Schema

/-! ## The decoders -/

section Payloads

open JsonKind (readBy_text readBy_number readBy_fields)

variable {data : Fields}

/-- The epoch and the round of a status, by which a network's parameters are completed. -/
theorem Schema.Fits.status (h : Schema.networkStatus.Fits (.obj data)) :
    ∃ status, data.object? "status" = some status ∧
      (∃ n, status.number? "erd_epoch_number" = some n) ∧
      ∃ n, status.number? "erd_current_round" = some n := by
  obtain ⟨status, found, fits⟩ := h.object_of_object "status" rfl rfl rfl
  exact ⟨status, found, fits.number_of_object _ rfl rfl rfl, fits.number_of_object _ rfl rfl rfl⟩

/-- The hash of a transaction that was sent is not empty. -/
theorem Schema.Fits.sentHash (h : Schema.transactionHash.Fits (.obj data)) :
    ∃ hash, data.text? "txHash" = some hash ∧ hash ≠ "" := by
  obtain ⟨value, found, filled⟩ := h.value_of_object "txHash" rfl rfl
  have admitted := filled.admits_kinds
  cases value with
  | str hash => exact ⟨hash, by rw [Fields.text?, found]; rfl, filled.ne_empty⟩
  | null | bool _ | num _ | arr _ | obj _ => cases admitted

/-- Parameters of a network that fit can be read, if the status has an epoch and a round. -/
theorem NetworkConfig.decode?_of_fits {status : Fields} {epoch round : Number}
    (h : Schema.networkConfig.Fits (.obj data))
    (hasEpoch : status.number? "erd_epoch_number" = some epoch)
    (hasRound : status.number? "erd_current_round" = some round) :
    ∃ config, ((data.object? "config").bind fun config => decode? config status) =
      some config := by
  obtain ⟨config, found, fits⟩ := h.object_of_object "config" rfl rfl rfl
  obtain ⟨_, chainId⟩ := fits.text_of_object "erd_chain_id" rfl rfl rfl
  obtain ⟨_, gasPrice⟩ := fits.number_of_object "erd_min_gas_price" rfl rfl rfl
  obtain ⟨_, gasLimit⟩ := fits.number_of_object "erd_min_gas_limit" rfl rfl rfl
  obtain ⟨_, perByte⟩ := fits.number_of_object "erd_gas_per_data_byte" rfl rfl rfl
  obtain ⟨_, version⟩ := fits.number_of_object "erd_min_transaction_version" rfl rfl rfl
  obtain ⟨_, duration⟩ := fits.number_of_object "erd_round_duration" rfl rfl rfl
  obtain ⟨_, shards⟩ := fits.number_of_object "erd_num_shards_without_meta" rfl rfl rfl
  obtain ⟨_, denomination⟩ := fits.number_of_object "erd_denomination" rfl rfl rfl
  simp [found, decode?, chainId, gasPrice, gasLimit, perByte, version, duration, shards,
    denomination, hasEpoch, hasRound]

theorem NetworkEconomics.decode?_of_fits (h : Schema.networkEconomics.Fits (.obj data)) :
    ∃ metrics, (data.object? "metrics").bind decode? = some metrics := by
  obtain ⟨metrics, found, fits⟩ := h.object_of_object "metrics" rfl rfl rfl
  obtain ⟨_, supply⟩ := fits.text_of_object "erd_total_supply" rfl rfl rfl
  obtain ⟨_, epoch⟩ := fits.number_of_object "erd_epoch_for_economics_data" rfl rfl rfl
  simp [found, decode?, supply, epoch]

/-- An account can be read, if its payload fits. It may lack its address. -/
theorem AccountInfo.decode?_of_fits (h : Schema.account.Fits (.obj data)) (address : String) :
    ∃ account, ((data.object? "account").bind fun account => decode? account address) =
      some account := by
  obtain ⟨account, found, fits⟩ := h.object_of_object "account" rfl rfl rfl
  obtain ⟨_, own⟩ := fits.filled_of_object "address" rfl (.inl rfl)
  obtain ⟨_, balance⟩ := fits.text_of_object "balance" rfl rfl rfl
  obtain ⟨_, nonce⟩ := fits.number_of_object "nonce" rfl rfl rfl
  obtain ⟨_, username⟩ := fits.filled_of_object "username" rfl (.inr rfl)
  obtain ⟨_, code⟩ := fits.filled_of_object "code" rfl (.inr rfl)
  obtain ⟨_, codeHash⟩ := fits.filled_of_object "codeHash" rfl (.inr rfl)
  obtain ⟨_, owner⟩ := fits.filled_of_object "ownerAddress" rfl (.inr rfl)
  simp [found, decode?, own, balance, nonce, username, code, codeHash, owner]

theorem TokenMetadata.decode?_of_fits {token : Json} (h : Schema.token.Fits token) :
    ∃ metadata, token.fields?.bind decode? = some metadata := by
  obtain ⟨fields, rfl⟩ := h.fields_of_kinds rfl
  obtain ⟨_, identifier⟩ := h.text_of_object "identifier" rfl rfl rfl
  obtain ⟨_, name⟩ := h.text_of_object "name" rfl rfl rfl
  obtain ⟨_, ticker⟩ := h.filled_of_object "ticker" rfl (.inl rfl)
  obtain ⟨_, owner⟩ := h.filled_of_object "owner" rfl (.inl rfl)
  obtain ⟨_, decimals⟩ := h.number_of_object "decimals" rfl rfl rfl
  simp [Json.fields?, decode?, identifier, name, ticker, owner, decimals]

theorem TransactionCost.decode?_of_fits (h : Schema.transactionCost.Fits (.obj data)) :
    ∃ cost, decode? data = some cost := by
  obtain ⟨_, units⟩ := h.number_of_object "txGasUnits" rfl rfl rfl
  obtain ⟨_, message⟩ := h.optional_of_object readBy_text "returnMessage" rfl (.inl rfl)
  simp [decode?, units, message]

theorem BatchReceipt.decode?_of_fits (h : Schema.transactionHashes.Fits (.obj data))
    (count : Nat) : ∃ receipt, decode? data count = some receipt := by
  obtain ⟨sent, reported⟩ := h.number_of_object "numOfSentTxs" rfl rfl rfl
  obtain ⟨hashes, found, fits⟩ := h.object_of_object "txsHashes" rfl rfl rfl
  obtain ⟨texts, read⟩ : ∃ texts, (List.range count).mapM (fun i =>
      hashes.optional? (toString i : String) Json.text?) = some texts :=
    exists_mapM_eq_some fun i _ => fits.text_of_mapOf (toString i)
  refine ⟨⟨sent, texts⟩, ?_⟩
  simp only [decode?, found, reported, read, Option.bind_eq_bind, Option.bind_some, Option.pure_def]

/-- A transaction can be read, if its payload fits, whatever hash and table it is read with. -/
theorem TransactionOnNetwork.decode?_of_fits (h : Schema.transaction.Fits (.obj data))
    (hash : Text) (table : StatusTable) :
    ∃ tx, ((data.object? "transaction").bind fun tx => decode? tx hash table) = some tx := by
  obtain ⟨tx, found, fits⟩ := h.object_of_object "transaction" rfl rfl rfl
  obtain ⟨_, status⟩ := fits.text_of_object "status" rfl rfl rfl
  obtain ⟨_, own⟩ := fits.filled_of_object "hash" rfl (.inl rfl)
  obtain ⟨_, sender⟩ := fits.text_of_object "sender" rfl rfl rfl
  obtain ⟨_, receiver⟩ := fits.text_of_object "receiver" rfl rfl rfl
  obtain ⟨_, nonce⟩ := fits.number_of_object "nonce" rfl rfl rfl
  obtain ⟨_, value⟩ := fits.text_of_object "value" rfl rfl rfl
  obtain ⟨_, text⟩ := fits.filled_of_object "data" rfl (.inr rfl)
  obtain ⟨_, blockHash⟩ := fits.filled_of_object "blockHash" rfl (.inl rfl)
  obtain ⟨_, gasLimit⟩ := fits.optional_of_object readBy_number "gasLimit" rfl (.inl rfl)
  obtain ⟨_, gasPrice⟩ := fits.optional_of_object readBy_number "gasPrice" rfl (.inl rfl)
  obtain ⟨_, blockNonce⟩ := fits.optional_of_object readBy_number "blockNonce" rfl (.inl rfl)
  obtain ⟨_, round⟩ := fits.optional_of_object readBy_number "round" rfl (.inl rfl)
  obtain ⟨_, epoch⟩ := fits.optional_of_object readBy_number "epoch" rfl (.inl rfl)
  obtain ⟨_, logs⟩ := fits.optional_of_object readBy_fields "logs" rfl (.inr rfl)
  obtain ⟨_, results⟩ := fits.items_of_object "smartContractResults" rfl (.inr rfl)
  refine Option.isSome_iff_exists.mp ?_
  rw [found, Option.bind_some, decode?, status, own, sender, receiver, nonce, value, text, gasLimit,
    gasPrice, blockNonce, blockHash, round, epoch, logs, results]
  rfl

theorem VmQueryResult.decode?_of_fits (h : Schema.vmQuery.Fits (.obj data)) :
    ∃ result, (data.object? "data").bind decode? = some result := by
  obtain ⟨answer, found, fits⟩ := h.object_of_object "data" rfl rfl rfl
  obtain ⟨_, code⟩ := fits.text_of_object "returnCode" rfl rfl rfl
  obtain ⟨_, message⟩ := fits.optional_of_object readBy_text "returnMessage" rfl (.inl rfl)
  obtain ⟨texts, reads⟩ := fits.texts_of_object "returnData" rfl
  obtain ⟨items, returned, each⟩ := Option.bind_eq_some_iff.mp reads
  simp [found, decode?, returned, each, code, message]

theorem HyperBlock.decode?_of_fits (h : Schema.hyperblock.Fits (.obj data)) :
    ∃ block, (data.object? "hyperblock").bind decode? = some block := by
  obtain ⟨block, found, fits⟩ := h.object_of_object "hyperblock" rfl rfl rfl
  obtain ⟨_, nonce⟩ := fits.number_of_object "nonce" rfl rfl rfl
  obtain ⟨_, round⟩ := fits.number_of_object "round" rfl rfl rfl
  obtain ⟨_, epoch⟩ := fits.number_of_object "epoch" rfl rfl rfl
  obtain ⟨_, hash⟩ := fits.text_of_object "hash" rfl rfl rfl
  obtain ⟨_, previous⟩ := fits.text_of_object "prevBlockHash" rfl rfl rfl
  obtain ⟨_, count⟩ := fits.number_of_object "numTxs" rfl rfl rfl
  obtain ⟨_, timestamp⟩ := fits.number_of_object "timestamp" rfl rfl rfl
  obtain ⟨_, shards⟩ := fits.items_of_object "shardBlocks" rfl (.inr rfl)
  obtain ⟨_, transactions⟩ := fits.items_of_object "transactions" rfl (.inr rfl)
  refine Option.isSome_iff_exists.mp ?_
  rw [found, Option.bind_some, decode?, nonce, round, epoch, hash, previous, count, timestamp,
    shards, transactions]
  rfl

end Payloads
end GatewayClient
