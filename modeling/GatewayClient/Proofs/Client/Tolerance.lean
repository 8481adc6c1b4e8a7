import GatewayClient.Proofs.Schema.Records
import GatewayClient.Proofs.Shapes

/-!
# Operations that tolerate further keys

An answer may have further keys in the object that is read as a record (`Record.Grown`). An
operation tolerates them if whoever goes on with its record, without a look at `raw`, goes on the
same. That is a matter of how the operation is put together: of calls whose payloads are checked and
read, of what comes before them, and of what is reported after.

**All operations that read records tolerate further keys**: those of one call (`Tolerates.decoded`),
the two calls for the parameters of a network, and the three calls that send and confirm a
transaction. What else is read there stands under keys of its own.
-/

set_option autoImplicit false

namespace GatewayClient

open Json (Fields)

variable {τ α β γ : Type}

/-- The response of success has a payload in an envelope that reports no error. -/
structure Envelope.Wraps (payload : Fields) (r : Response) : Prop where
  ok : r.ok = true
  wrapped : ∃ fields : Fields, r.body? = some (.obj fields) ∧
    fields.get? "data" = some (.obj payload) ∧ fields.get? "error" = some (.str "") ∧
    fields.get? "code" = some (.str successCode)

/-- Two outcomes that are the same, or whose payloads are the same up to further keys of the object
that is read as a record. -/
inductive Record.Grown (rec : Record α) : Outcome → Outcome → Prop
  | same (outcome : Outcome) : Grown rec outcome outcome
  | enveloped {p p' : Fields} {r r' : Response} (widens : rec.Widens p p')
      (one : Envelope.Wraps p r) (other : Envelope.Wraps p' r') :
      Grown rec (.response r) (.response r')

/-- What follows goes the same from two findings that it does not tell apart. -/
theorem Action.expect_bind_congr {found found' : Option α} {f : α → Action τ β} (what : String)
    (same : found'.map f = found.map f) :
    Action.expect what found' >>= f = Action.expect what found >>= f := by
  cases found <;> cases found'
  case none.none => rfl
  case some.some a b => exact Option.some.inj same
  all_goals cases same

/-- A check says the same of two values that have the same wrong with them. -/
theorem Client.validate_congr {schema : Schema} {j j' : Json} (what : String)
    (same : schema.violations j' = schema.violations j) :
    (validate schema what j' : Action τ Unit) = validate schema what j := by
  rw [validate, validate, Schema.validate, Schema.validate, same]

variable [TimeScale τ]

/-- The payload of an envelope is what it wraps. -/
theorem Envelope.Wraps.payload_eq {payload : Fields} {r : Response} (h : Wraps payload r) :
    ((Outcome.response r).payload : Except (ApiError τ) Fields) = .ok payload := by
  obtain ⟨fields, body, data, error, code⟩ := h.wrapped
  exact (Holds.enveloped h.ok body data error code).unwrap_eq

/-! ## Answers with further keys -/

namespace Record

variable {rec : Record α} {x : Action τ α}

/-- The payloads of outcomes that are the same up to further keys are so too. -/
theorem Grown.payloads {a b : Outcome} (h : rec.Grown a b) :
    Option.Rel rec.Widens (a.payload : Except (ApiError τ) Fields).toOption
      (b.payload : Except (ApiError τ) Fields).toOption := by
  cases h with
  | same =>
    cases (a.payload : Except (ApiError τ) Fields) with
    | ok p => exact .some (.same p)
    | error _ => exact .none
  | @enveloped p p' r r' widens one other =>
    rw [one.payload_eq, other.payload_eq]
    exact .some widens

/-- Logs that are the same up to further keys in answers have payloads that are so. -/
theorem widens_payloads {log log' : Log τ} (h : List.Forall₂ (Event.Mirrors rec.Grown) log log') :
    List.Forall₂ rec.Widens log.payloads log'.payloads := by
  have sent : List.Forall₂ (fun call call' : Request τ × Option Outcome =>
      Option.Rel rec.Grown call.2 call'.2) log.sent log'.sent := by
    refine List.rel_filterMap (fun e e' mirrors => ?_) h
    cases mirrors with
    | sent alike => exact .some alike
    | other e silent =>
      rw [silent]
      exact .none
  refine List.rel_filterMap ?_ sent
  rintro ⟨_, answer⟩ ⟨_, answer'⟩ alike
  change Option.Rel rec.Grown answer answer' at alike
  cases alike with
  | none => exact .none
  | some grown => exact grown.payloads

/-- Whatever goes on with the record of the action without a look at `raw` goes on the same from
answers that are the same up to further keys. -/
def Tolerates (rec : Record α) (x : Action τ α) : Prop :=
  ∀ ⦃β : Type⦄ (f : α → Action τ β), rec.Blind f → (∀ a, (f a).Respects rec.Grown) →
    Action.Respects rec.Grown (x >>= f)

/-- What goes on the same from payloads that are the same up to further keys does so from answers.
-/
theorem map_payload {next : Fields → β} (same : ∀ p p', rec.Widens p p' → next p' = next p)
    (a b : Outcome) (grown : rec.Grown a b) :
    (a.payload : Except (ApiError τ) Fields).map next = b.payload.map next := by
  cases grown with
  | same outcome => rfl
  | @enveloped p p' r r' widens one other =>
    rw [one.payload_eq, other.payload_eq]
    exact congrArg Except.ok (same p p' widens).symm

namespace Tolerates

/-- What is on the side goes on the same, whatever is answered. -/
theorem aside (quiet : x.Aside) : rec.Tolerates x :=
  fun _ _ _ rest => quiet.respects.bind rest

omit [TimeScale τ] in
/-- Something comes first that goes on the same in any case. -/
theorem following {y : Action τ γ} {g : γ → Action τ α} (first : y.Respects rec.Grown)
    (rest : ∀ c, rec.Tolerates (g c)) : rec.Tolerates (y >>= g) := by
  intro β f blind respects
  rw [Action.bind_assoc]
  exact first.bind fun c => rest c f blind respects

/-- A record is passed on after something on the side that does not look at `raw`. -/
theorem before {y : α → Action τ γ} {g : α → Action τ α} (h : rec.Tolerates x)
    (quiet : ∀ a, (y a).Aside) (blind : rec.Blind y)
    (passes : ∀ a, g a = y a >>= fun _ => pure a) : rec.Tolerates (x >>= g) := by
  intro β f unseen respects
  rw [Action.bind_assoc, funext passes]
  -- what goes on after `x` is `y` and then `f`, and neither looks at `raw`
  refine h _ (fun o a => ?_) fun a => ?_
  · rw [Action.bind_assoc, Action.bind_assoc, blind]
    exact congrArg (y a >>= ·) (funext fun _ => unseen o a)
  · rw [Action.bind_assoc]
    exact (quiet a).respects.bind fun _ => respects a

/-! ## One call -/

variable (c : Client τ) (op : Operation) (values : PathValues) (query : Query)
  (body : Option Bytes) (idempotent : Bool) (o : CallOptions τ)

/-- A payload that is checked, and then read as a record. -/
theorem checked (check : Fields → Action τ Unit) (next : Fields → Action τ α)
    (checks : ∀ p p', rec.Widens p p' → check p' = check p)
    (reads : ∀ p p', rec.Widens p p' → ∀ ⦃β : Type⦄ (f : α → Action τ β), rec.Blind f →
      next p' >>= f = next p >>= f)
    (quiet : ∀ p, (check p).Aside) (rest : ∀ p, rec.Tolerates (next p)) :
    rec.Tolerates (do
      let data ← c.call op values query body idempotent o
      check data
      next data) := by
  intro β f blind respects
  rw [Action.bind_assoc]
  refine c.respects_call_bind (map_payload fun p p' widens => ?_) (fun data => ?_)
    op values query body idempotent o
  · rw [Action.bind_assoc, Action.bind_assoc, checks p p' widens]
    exact congrArg (check p >>= ·) (funext fun _ => reads p p' widens f blind)
  · rw [Action.bind_assoc]
    exact (quiet data).respects.bind fun _ => rest data f blind respects

/-- A payload whose object is checked, and then read as a record. -/
theorem decoded {decode : Fields → Option α} (strict : rec.bare = false) {schema : Schema}
    (checks : rec.Checks schema) (reads : rec.ReadBy decode) (what : String) :
    rec.Tolerates (do
      let data ← c.call op values query body idempotent o
      Client.validate schema what (.obj data)
      Action.expect what ((data.object? rec.key).bind decode)) := by
  refine checked c op values query body idempotent o _ _ (fun p p' widens => ?_)
    (fun p p' widens β f blind => ?_) (fun p => Client.aside_validate _ _ (.obj p))
    fun p => aside (.expect _ _)
  · exact Client.validate_congr what (widens.violations strict checks)
  · exact Action.expect_bind_congr what (widens.map_object strict reads blind)

end Tolerates

/-! ## Calls that the record is not read from -/

section Elsewhere

variable (c : Client τ) (op : Operation) (values : PathValues) (query : Query)
  (body : Option Bytes) (idempotent : Bool) (o : CallOptions τ)

/-- What is read from under another key sees nothing of the record. -/
theorem respects_elsewhere (strict : rec.bare = false) {key : String} (other : key ≠ rec.key)
    (schema : Schema) (what : String) (read : Json → Option β) :
    Action.Respects rec.Grown (do
      let data ← c.call op values query body idempotent o
      Client.validate (.object [key] [(key, schema)]) what (.obj data)
      Action.expect what ((data.get? key).bind read)) := by
  refine c.respects_call_bind (map_payload fun p p' widens => ?_)
    (fun data => (Client.aside_decode _ _ (.obj data) _).respects) op values query body idempotent o
  have same := widens.get?_of_ne strict other
  have violations : (Schema.object [key] [(key, schema)]).violations (.obj p') =
      (Schema.object [key] [(key, schema)]).violations (.obj p) :=
    Schema.violations_object_congr (List.forall_mem_singleton.mpr (by rw [same]))
      (List.forall_mem_singleton.mpr (by rw [same]))
  rw [Client.validate_congr what violations, same]

/-- What does not look at the payload of a call sees nothing of the record. -/
theorem respects_unread (next : Action τ β) (quiet : next.Aside) :
    Action.Respects rec.Grown (c.call op values query body idempotent o >>= fun _ => next) :=
  c.respects_call_bind (map_payload fun _ _ _ => rfl) (fun _ => quiet.respects)
    op values query body idempotent o

end Elsewhere

variable (c : Client τ) (o : CallOptions τ)

/-! ## The operations that give records -/

/-- The parameters of a network are a record of the first of two payloads. The second one is read
under another key. -/
theorem tolerates_getNetworkConfig :
    NetworkConfig.record.Tolerates (c.getNetworkConfig o) := by
  have status : (c.getNetworkStatus Client.metachainShard o).Respects
      NetworkConfig.record.Grown :=
    respects_elsewhere c .networkStatus _ _ _ _ o rfl (by decide) _ _ Json.fields?
  unfold Client.getNetworkConfig
  refine Tolerates.checked c .networkConfig [] [] none true o _ _ (fun p p' widens => ?_)
    (fun p p' widens β f blind => ?_) (fun p => Client.aside_validate _ _ (.obj p))
    fun p => .following status fun _ => .aside (.expect _ _)
  · exact Client.validate_congr _ (widens.violations rfl NetworkConfig.checks_record)
  · rw [Action.bind_assoc, Action.bind_assoc]
    refine congrArg (_ >>= ·) (funext fun status => Action.expect_bind_congr _ ?_)
    exact widens.map_object rfl (NetworkConfig.readBy_record status) blind

/-- A transaction is a record of its payload. To note its status does not look at `raw`. -/
theorem tolerates_getTransaction (hash : Text) (withResults : Bool) :
    TransactionOnNetwork.record.Tolerates (c.getTransaction hash withResults o) := by
  refine .following (Client.aside_require "tx_hash" hash).respects fun _ => ?_
  have read := Tolerates.decoded c .transaction [("hash", .text hash)]
    (if withResults then [("withResults", "true")] else []) none true o rfl
    TransactionOnNetwork.checks_record (TransactionOnNetwork.readBy_record hash c.statusTable)
    "transaction"
  have blind : TransactionOnNetwork.record.Blind fun tx => c.noteStatus tx.rawStatus :=
    fun _ _ => rfl
  have noted := read.before (fun tx => c.aside_noteStatus tx.rawStatus) blind fun _ => rfl
  simp only [Action.bind_assoc] at noted
  exact noted

/-- A block is a record of the payload that it is read from. -/
theorem tolerates_readHyperBlock (op : Operation) (values : PathValues) :
    HyperBlock.record.Tolerates (c.read op values o >>= Client.readHyperBlock) :=
  .decoded c op values [] none true o rfl HyperBlock.checks_record HyperBlock.readBy_record
    "hyperblock"

/-- Of a transaction that is sent and confirmed only the last of three payloads is the record. -/
theorem tolerates_sendAndConfirm (s : Simulator τ) (request : TransactionRequest) (blocks : Int)
    (withResults watching : Bool) : TransactionOnNetwork.record.Tolerates
      (s.sendAndConfirm request blocks withResults watching) := by
  have sends : (s.client.sendTransaction request watching).Respects
      TransactionOnNetwork.record.Grown :=
    respects_elsewhere s.client .sendTransaction _ _ _ _ _ rfl (by decide) _ _ Json.text?
  have produces : (s.generateBlocks blocks watching).Respects
      TransactionOnNetwork.record.Grown := by
    unfold Simulator.generateBlocks
    split
    · exact .fail _
    · exact respects_unread s.client _ _ _ _ _ _ _ (.pure ())
  refine .following sends fun hash => .following produces fun _ => ?_
  have query := tolerates_getTransaction s.client { policy := some .single, watching } hash
    withResults
  let note (tx : TransactionOnNetwork) : Action τ Unit :=
    if !tx.isTerminal then Action.warn (.stillPending hash tx.rawStatus blocks) else pure ()
  have blind : TransactionOnNetwork.record.Blind note := fun _ _ => rfl
  have quiet : ∀ tx, (note tx).Aside := fun tx => by
    dsimp only [note]
    split
    · exact .warn _
    · exact .pure ()
  refine query.before quiet blind fun tx => ?_
  dsimp only [note]
  split <;> rfl

end Record
end GatewayClient
