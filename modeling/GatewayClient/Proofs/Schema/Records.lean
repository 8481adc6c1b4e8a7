import GatewayClient.Proofs.Schema.Growth

/-!
# Records

A record is read out of an object of a payload, field by field, and keeps the object itself as
`raw`. There are seven kinds of them. Each names the keys that its schema or its decoder looks at.

**An object with further keys is read as the same record**, up to `raw`, which has all of them
(`Record.ReadBy`), and it passes the same checks (`Record.Checks`).
-/

set_option autoImplicit false

namespace GatewayClient

open Json (Fields)

/-! ## Records -/

/-- How values of a type are records of objects in payloads. -/
structure Record (α : Type) where
  /-- The key under which a payload has the object. -/
  key : String
  /-- The keys of the object that are looked at. -/
  names : List String
  /-- A payload without that key is the object itself. -/
  bare : Bool := false
  raw : α → Fields
  withRaw : Fields → α → α
  raw_withRaw : ∀ o a, raw (withRaw o a) = o := by intros; rfl
  withRaw_raw : ∀ a, withRaw (raw a) a = a := by intros; rfl
  withRaw_withRaw : ∀ o o' a, withRaw o (withRaw o' a) = withRaw o a := by
    intros; rfl

def NetworkConfig.record : Record NetworkConfig where
  key := "config"
  names := (Schema.networkConfig.part "config").names
  raw := raw
  withRaw o network := { network with raw := o }

def NetworkEconomics.record : Record NetworkEconomics where
  key := "metrics"
  -- the metrics that may be missing are in no schema
  names := (Schema.networkEconomics.part "metrics").names ++ ["erd_total_fees", "erd_dev_rewards",
    "erd_total_base_staked_value", "erd_total_top_up_value", "erd_inflation"]
  raw := raw
  withRaw o economics := { economics with raw := o }

def AccountInfo.record : Record AccountInfo where
  key := "account"
  names := (Schema.account.part "account").names
  raw := raw
  withRaw o account := { account with raw := o }

def TransactionOnNetwork.record : Record TransactionOnNetwork where
  key := "transaction"
  names := (Schema.transaction.part "transaction").names
  raw := raw
  withRaw o tx := { tx with raw := o }

def TokenMetadata.record : Record TokenMetadata where
  key := "tokenData"
  names := Schema.token.names
  bare := true
  raw := raw
  withRaw o token := { token with raw := o }

def VmQueryResult.record : Record VmQueryResult where
  key := "data"
  names := (Schema.vmQuery.part "data").names
  raw := raw
  withRaw o result := { result with raw := o }

def HyperBlock.record : Record HyperBlock where
  key := "hyperblock"
  names := (Schema.hyperblock.part "hyperblock").names
  raw := raw
  withRaw o block := { block with raw := o }

namespace Record

variable {α β : Type} {rec : Record α} {p p' : Fields}

/-- What of a payload is read as a record. -/
def part (rec : Record α) (p : Fields) : Json :=
  (p.get? rec.key).getD (if rec.bare then .obj p else .null)

/-- The object of a record stands under its key. -/
theorem fields?_part (strict : rec.bare = false) (p : Fields) :
    (rec.part p).fields? = p.object? rec.key := by
  rw [part, strict, Fields.object?]
  cases p.get? rec.key <;> rfl

/-- A record that may be bare is the payload itself where the key is missing. -/
theorem part_of_bare (bare : rec.bare = true) (p : Fields) :
    rec.part p = (p.get? rec.key).getD (.obj p) := by
  rw [part, if_pos bare]

/-! ## Payloads with further keys -/

/-- The second payload is the first one, in which the object of the record has further keys. The
names of the record are not among them. Where the payload itself is the object, they do not move it
either. -/
inductive Widens (rec : Record α) : Fields → Fields → Prop
  | same (p : Fields) : Widens rec p p
  | under {p p' o o' : Fields} (found : p.get? rec.key = some (.obj o))
      (grows : Fields.Grows rec.names o o') (found' : p'.get? rec.key = some (.obj o'))
      (others : ∀ key, key ≠ rec.key → p'.get? key = p.get? key) : Widens rec p p'
  | whole {p p' : Fields} (bare : rec.bare = true) (absent : p.get? rec.key = none)
      (grows : Fields.Grows (rec.key :: rec.names) p p') : Widens rec p p'

/-- What is read as a record grows, or it is the same. -/
theorem Widens.parts (h : rec.Widens p p') : rec.part p' = rec.part p ∨
    ∃ o o', rec.part p = .obj o ∧ rec.part p' = .obj o' ∧ Fields.Grows rec.names o o' := by
  cases h with
  | same => exact .inl rfl
  | under found grows found' _ =>
    exact .inr ⟨_, _, by rw [part, found]; rfl, by rw [part, found']; rfl, grows⟩
  | whole bare absent grows =>
    have absent' := (grows.agree rec.key List.mem_cons_self).trans absent
    exact .inr ⟨p, p', by rw [part_of_bare bare, absent]; rfl,
      by rw [part_of_bare bare, absent']; rfl, grows.mono fun _ => List.mem_cons_of_mem _⟩

/-- The objects that are read as records grow. -/
theorem Widens.grows (h : rec.Widens p p') {o o' : Fields} (here : rec.part p = .obj o)
    (there : rec.part p' = .obj o') : Fields.Grows rec.names o o' := by
  obtain same | ⟨_, _, found, found', grows⟩ := h.parts
  · rw [here, there] at same
    cases same
    exact .refl _
  · rw [here] at found
    rw [there] at found'
    cases found
    cases found'
    exact grows

/-- Beside the object nothing changes, if it has a key of its own. -/
theorem Widens.get?_of_ne (h : rec.Widens p p') (strict : rec.bare = false) {key : String}
    (other : key ≠ rec.key) : p'.get? key = p.get? key := by
  cases h with
  | same => rfl
  | under _ _ _ others => exact others key other
  | whole bare _ _ => cases strict.symm.trans bare

/-- The function does not look at `raw`. -/
def Blind (rec : Record α) (f : α → β) : Prop := ∀ o a, f (rec.withRaw o a) = f a

/-- A decoder reads objects as such records: what it makes of an object with further keys is what it
makes of the object, but for `raw`. -/
def ReadBy (rec : Record α) (decode : Fields → Option α) : Prop :=
  ∀ ⦃o o' : Fields⦄, Fields.Grows rec.names o o' → decode o' = (decode o).map (rec.withRaw o')

/-- A record that is read keeps what it was read from. -/
theorem ReadBy.raw_eq {decode : Fields → Option α} (reads : rec.ReadBy decode) {o : Fields} {a : α}
    (h : decode o = some a) : rec.raw a = o := by
  have again := reads (.refl o)
  rw [h, Option.map_some, Option.some_inj] at again
  rw [again, rec.raw_withRaw]

/-- A record that is read keeps the object under its key. -/
theorem ReadBy.part_eq {decode : Fields → Option α} (reads : rec.ReadBy decode) {o : Fields} {a : α}
    (found : (rec.part p).fields? = some o) (read : decode o = some a) :
    rec.part p = .obj (rec.raw a) := by
  rw [reads.raw_eq read]
  cases is : rec.part p with
  | obj fields =>
    rw [is] at found
    cases found
    rfl
  | null | bool _ | num _ | str _ | arr _ =>
    rw [is] at found
    cases found

/-- A payload whose object grows is read as the same record, but for `raw`. -/
theorem Widens.map_decode (h : rec.Widens p p') {decode : Fields → Option α}
    (reads : rec.ReadBy decode) {f : α → β} (blind : rec.Blind f) :
    ((rec.part p').fields?.bind decode).map f = ((rec.part p).fields?.bind decode).map f := by
  obtain same | ⟨o, o', found, found', grows⟩ := h.parts
  · rw [same]
  · rw [found, found']
    show (decode o').map f = (decode o).map f
    rw [reads grows, Option.map_map]
    exact congrArg (Option.map · (decode o)) (funext fun a => blind o' a)

/-- A function that does not look at `raw` sees the same in a payload whose object grows. -/
theorem Widens.map_object (h : rec.Widens p p') (strict : rec.bare = false)
    {decode : Fields → Option α} (reads : rec.ReadBy decode) {f : α → β} (blind : rec.Blind f) :
    ((p'.object? rec.key).bind decode).map f = ((p.object? rec.key).bind decode).map f := by
  rw [← fields?_part strict, ← fields?_part strict]
  exact h.map_decode reads blind

/-- A schema asks for the object under the key of the record, and names no other key in it than the
record does. -/
def Checks (rec : Record α) (schema : Schema) : Prop :=
  ∃ required fields, schema = .object [rec.key] [(rec.key, .object required fields)] ∧
    ∀ key ∈ (Schema.object required fields).names, key ∈ rec.names

/-- A payload whose object grows has what was wrong with it before, and nothing else. -/
theorem Widens.violations (h : rec.Widens p p') (strict : rec.bare = false) {schema : Schema}
    (checks : rec.Checks schema) : schema.violations (.obj p') = schema.violations (.obj p) := by
  obtain ⟨required, fields, rfl, named⟩ := checks
  cases h with
  | same => rfl
  | under found grows found' _ =>
    refine Schema.violations_object_congr (List.forall_mem_singleton.mpr ?_)
      (List.forall_mem_singleton.mpr ?_)
    · rw [found, found']
      rfl
    · rw [found, found']
      exact congrArg some (Schema.violations_grown (grows.mono named))
  | whole bare _ _ => cases strict.symm.trans bare

end Record

/-! ## The decoders of records -/

section Decoders

/-- Two readers that differ by a function behind every value differ by it. -/
theorem bind_eq_map_bind {α β : Type} {x : Option α} {f f' : α → Option β} {g : β → β}
    (each : ∀ a, f' a = (f a).map g) : x >>= f' = (x >>= f).map g := by
  cases x with
  | none => rfl
  | some a => exact each a

theorem NetworkConfig.readBy_record (status : Fields) :
    record.ReadBy fun config => decode? config status := by
  intro o o' grows
  have agree := grows.agree
  simp (disch := decide) only [decode?, agree.text?, agree.number?]
  repeat refine bind_eq_map_bind fun _ => ?_
  rfl

/-- A metric is read alike from objects that agree on its name. -/
theorem NetworkEconomics.metric_agree {names : List String} {o o' : Fields} {key : String}
    (agree : o.Agree names o') (named : key ∈ names) : metric o' key = metric o key := by
  rw [metric, metric, agree key named]

theorem NetworkEconomics.readBy_record : record.ReadBy decode? := by
  intro o o' grows
  have agree := grows.agree
  simp (disch := decide) only [decode?, agree.text?, agree.number?, metric_agree agree]
  repeat refine bind_eq_map_bind fun _ => ?_
  rfl

theorem AccountInfo.readBy_record (address : String) :
    record.ReadBy fun account => decode? account address := by
  intro o o' grows
  have agree := grows.agree
  simp (disch := decide) only [decode?, agree.text?, agree.number?, agree.filled?]
  repeat refine bind_eq_map_bind fun _ => ?_
  rfl

/-- A transaction is read as a record, for any hash and table. -/
theorem TransactionOnNetwork.readBy_record (hash : Text) (table : StatusTable) :
    record.ReadBy fun tx => decode? tx hash table := by
  intro o o' grows
  have agree := grows.agree
  simp (disch := decide) only [decode?, agree.text?, agree.number?, agree.filled?,
    agree.optional?, agree.items?]
  repeat refine bind_eq_map_bind fun _ => ?_
  rfl

theorem TokenMetadata.readBy_record : record.ReadBy decode? := by
  intro o o' grows
  have agree := grows.agree
  simp (disch := decide) only [decode?, agree.text?, agree.number?, agree.filled?,
    agree "supply"]
  repeat refine bind_eq_map_bind fun _ => ?_
  rfl

theorem VmQueryResult.readBy_record : record.ReadBy decode? := by
  intro o o' grows
  have agree := grows.agree
  simp (disch := decide) only [decode?, agree.text?, agree.optional?, agree.items?]
  repeat refine bind_eq_map_bind fun _ => ?_
  rfl

theorem HyperBlock.readBy_record : record.ReadBy decode? := by
  intro o o' grows
  have agree := grows.agree
  simp (disch := decide) only [decode?, agree.text?, agree.number?, agree.items?]
  repeat refine bind_eq_map_bind fun _ => ?_
  rfl

end Decoders

/-! ## The schemas of records -/

section Schemas

theorem NetworkConfig.checks_record : record.Checks Schema.networkConfig :=
  ⟨_, _, rfl, fun _ => id⟩

theorem NetworkEconomics.checks_record : record.Checks Schema.networkEconomics :=
  ⟨_, _, rfl, fun _ => List.mem_append_left _⟩

theorem AccountInfo.checks_record : record.Checks Schema.account := ⟨_, _, rfl, fun _ => id⟩

theorem TransactionOnNetwork.checks_record : record.Checks Schema.transaction :=
  ⟨_, _, rfl, fun _ => id⟩

theorem VmQueryResult.checks_record : record.Checks Schema.vmQuery := ⟨_, _, rfl, fun _ => id⟩

theorem HyperBlock.checks_record : record.Checks Schema.hyperblock := ⟨_, _, rfl, fun _ => id⟩

/-- The schema of a token is for what is read as one, wherever it stands. -/
theorem TokenMetadata.violations_part {p p' : Fields} (h : record.Widens p p') :
    Schema.token.violations (record.part p') = Schema.token.violations (record.part p) := by
  obtain same | ⟨o, o', found, found', grows⟩ := h.parts
  · rw [same]
  · rw [found, found']
    exact Schema.violations_grown grows

end Schemas
end GatewayClient
