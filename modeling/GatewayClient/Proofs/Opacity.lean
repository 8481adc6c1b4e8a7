import GatewayClient.Proofs.Client.Composition
import GatewayClient.Proofs.Program.Relabelling
import GatewayClient.Proofs.Shapes

/-!
# Signed transactions are opaque

A transaction is signed elsewhere, and its bytes are nobody's business here. They become the body of
requests, and nothing else that a client does depends on them.

**Two runs that differ in the bytes alone** (`Command.opacity_law`) differ in the bodies of their
requests alone, whatever the bytes are: they end with the same result or the same error, make the
same requests otherwise, sleep for as long, and warn of the same, step by step. The world may do
anything in between, as long as its answers do not depend on the bodies (`World.Overlooks`).
-/

set_option autoImplicit false

namespace GatewayClient

variable {σ τ α : Type} [TimeScale τ]

omit [TimeScale τ] in
/-- The request with its body taken off. -/
def Request.withoutBody (r : Request τ) : Request τ := { r with body := none }

/-! ## Calls without their bodies -/

namespace Call

variable {c : Call τ} {f : Request τ → Request τ} {request : Request τ}

/-- A call does not look at its request: with another one that the change makes the same, it becomes
the same program. -/
theorem mapRequests_attempt (same : f request = f c.request) (started : τ) (made : Nat)
    {retry retry' : ApiError τ → τ → Action τ Json.Fields}
    (retries : ∀ e elapsed, (retry' e elapsed).mapRequests f = (retry e elapsed).mapRequests f) :
    (attempt { c with request } started made retry').mapRequests f =
      (c.attempt started made retry).mapRequests f := by
  unfold attempt
  refine Action.mapRequests_bind_congr rfl fun isSet => ?_
  cases isSet with
  | true => rfl
  | false =>
    refine Action.mapRequests_bind_congr ?_ fun answer => ?_
    · rw [Action.mapRequests_send, Action.mapRequests_send, same]
    · split
      next => rfl
      next outcome =>
        split
        next => rfl
        next error _ =>
          dsimp only
          split
          · exact Action.mapRequests_bind_congr rfl fun now => retries _ _
          · rfl

/-- So it is with all attempts of a call. -/
theorem mapRequests_attempts (same : f request = f c.request) (started : τ) (left made : Nat) :
    (attempts { c with request } started left made).mapRequests f =
      (c.attempts started left made).mapRequests f := by
  induction left generalizing made with
  | zero => exact mapRequests_attempt same started made fun e _ => rfl
  | succ left ih =>
    refine mapRequests_attempt same started made fun e elapsed => ?_
    refine Action.mapRequests_bind_congr rfl fun delay? => ?_
    cases delay? with
    | none => rfl
    | some delay =>
      refine Action.mapRequests_bind_congr rfl fun _ => ?_
      refine Action.mapRequests_bind_congr rfl fun full => ?_
      cases full with
      | true => exact ih (made + 1)
      | false => rfl

/-- So it is with a whole call. -/
theorem mapRequests_run (same : f request = f c.request) :
    (run { c with request }).mapRequests f = c.run.mapRequests f :=
  Action.mapRequests_bind_congr rfl fun started => mapRequests_attempts same started _ 0

end Call

/-- Two calls that differ in their bodies alone are the same without them. -/
theorem Client.mapRequests_call (c : Client τ) (op : Operation) (values : PathValues)
    (query : Query) (body other : Option Bytes) (idempotent : Bool) (o : CallOptions τ) :
    (c.call op values query body idempotent o).mapRequests Request.withoutBody =
      (c.call op values query other idempotent o).mapRequests Request.withoutBody :=
  Action.mapRequests_bind_congr rfl fun route =>
    Call.mapRequests_run (c := c.callFor op route other idempotent o) rfl

variable {c : Client τ} {o : CallOptions τ}

/-! ## Commands that sign otherwise -/

/-- The commands are one command with transactions that are signed otherwise. Batches are of one
length. -/
inductive Command.Resigns : {α : Type} → Command τ α → Command τ α → Prop
  | sendTransaction (request other : TransactionRequest) :
    Resigns (.write (.sendTransaction request)) (.write (.sendTransaction other))
  | sendTransactions {requests others : List TransactionRequest}
      (paired : requests.length = others.length) :
    Resigns (.write (.sendTransactions requests)) (.write (.sendTransactions others))
  | transactionCost (request other : TransactionRequest) :
    Resigns (.read (.transactionCost request)) (.read (.transactionCost other))

/-- The signed bytes that go out: the payload of one transaction as it is, those of several in a
batch. -/
def Command.signed? : Command τ α → Option Bytes
  | .write (.sendTransaction request) | .read (.transactionCost request) => some request.payload
  | .write (.sendTransactions requests) => some (TransactionRequest.batch requests)
  | _ => none

/-- Commands that differ in how their transactions are signed are the same without bodies. -/
theorem Command.Resigns.mapRequests_run {command other : Command τ α}
    (h : command.Resigns other) (c : Client τ) (o : CallOptions τ) :
    (command.run c o).mapRequests Request.withoutBody =
      (other.run c o).mapRequests Request.withoutBody := by
  cases h with
  | sendTransaction request other | transactionCost request other =>
    exact Action.mapRequests_bind_congr (c.mapRequests_call ..) fun _ => rfl
  | @sendTransactions requests others paired =>
    show (c.sendTransactions requests _).mapRequests _ =
      (c.sendTransactions others _).mapRequests _
    have empty : requests.isEmpty = others.isEmpty := by
      rw [Bool.eq_iff_iff, List.isEmpty_iff_length_eq_zero, List.isEmpty_iff_length_eq_zero, paired]
    rw [Client.sendTransactions, Client.sendTransactions, empty, paired]
    split
    · rfl
    · exact Action.mapRequests_bind_congr (c.mapRequests_call ..) fun _ => rfl

/-- The signed bytes are the body of every request, of a repeated one too. -/
theorem Command.body_of_signed {command : Command τ α} {signed : Bytes}
    (carries : command.signed? = some signed) {log : Log τ} {r : Except (Failure τ) α}
    (h : (command.run c o).Traces log r) : ∀ call ∈ log.sent, call.1.body = some signed := by
  unfold signed? at carries
  split at carries
  next request =>
    rw [← carries]
    have sends : ((Write.sendTransaction request).run c o.watching).Traces log r := h
    exact Write.body_of_sent sends
  next request =>
    rw [← carries]
    have bears : ((Read.transactionCost request).run c o).Ensures
        (Event.Bears (some request.payload)) (fun _ => True) fun _ => True :=
      (c.bears_call o .transactionCost [] [] _ true).bind fun data _ =>
        (Client.aside_decode _ _ (.obj data) _).bears _
    exact bears.body_of_sent h
  next requests =>
    rw [← carries]
    have sends : ((Write.sendTransactions requests).run c o.watching).Traces log r := h
    exact Write.body_of_sent sends
  next => cases carries

/-- **Nothing but bodies depends on signed bytes.** Two commands that differ in how their
transactions are signed end with the same result or error, sleep for as long and warn of the same;
their requests have the same methods, URLs and timeouts, and get the same answers. Without bodies
their runs are one run, to the order of its steps. The signed bytes go out unchanged. -/
theorem Command.opacity_law {w : World σ τ} (overlooks : w.Overlooks Request.withoutBody)
    {command other : Command τ α} (resigns : command.Resigns other) (c : Client τ)
    (o : CallOptions τ) (s : σ) :
    let r := (command.run c o).runIn w s
    let r' := (other.run c o).runIn w s
    let shown (call : Request τ × Option Outcome) :=
      (call.1.method, call.1.url, call.1.timeout, call.2)
    r.result = r'.result ∧ r.sent.map shown = r'.sent.map shown ∧ r.slept = r'.slept ∧
      r.warned = r'.warned ∧
      r.mapRequests Request.withoutBody = r'.mapRequests Request.withoutBody ∧
      ∀ signed, command.signed? = some signed → ∀ call ∈ r.sent, call.1.body = some signed := by
  intro r r' shown
  have same : r.mapRequests Request.withoutBody = r'.mapRequests Request.withoutBody := by
    rw [← Action.runIn_mapRequests overlooks, resigns.mapRequests_run,
      Action.runIn_mapRequests overlooks]
  have events : r.events.mapRequests Request.withoutBody =
      r'.events.mapRequests Request.withoutBody := congrArg Run.events same
  refine ⟨congrArg (·.result) same, ?_, ?_, ?_, same, fun signed carries =>
    body_of_signed carries (Action.traces_runIn _ w s)⟩
  · have sent := congrArg (fun log => (Log.sent log).map shown) events
    simp only [Log.sent_mapRequests, List.map_map] at sent
    exact sent
  · rw [Run.slept, ← Log.slept_mapRequests, events, Log.slept_mapRequests]
    rfl
  · rw [Run.warned, ← Log.warned_mapRequests, events, Log.warned_mapRequests]
    rfl

/-! ## A price that does not depend on a signature -/

section Priced

/-- A gateway that is busy at first, and then has a price for every transaction. -/
def busyThenPriced : Script Float where
  now := 0.0
  replies :=
    [{ answer := some (.response { status := 503 }), advance := 0.25 },
     { answer := some (.response (.ofBody (.obj [("txGasUnits", .num (.int 50000))])))
       advance := 0.25 }]

/-- The price of a transaction is asked for twice, each time with the bytes that were signed. It
does not depend on them, be they an object or no text at all. -/
theorem Command.opacity_law_busy :
    let cost (signed : Bytes) : Command Float TransactionCost :=
      .read (.transactionCost ⟨signed, "drt1", none⟩)
    let r := ((cost [0x7b, 0x7d]).run .onThisMachine {}).runIn Script.world busyThenPriced
    let r' := ((cost [0xff, 0x00]).run .onThisMachine {}).runIn Script.world busyThenPriced
    Script.world (τ := Float).Overlooks Request.withoutBody ∧
      (cost [0x7b, 0x7d]).Resigns (cost [0xff, 0x00]) ∧
      r.result.isOk = true ∧ r.sent.length = 2 ∧ r.slept.length = 1 ∧ r.warned.length = 1 ∧
      r.result = r'.result ∧ r.slept = r'.slept ∧ r.warned = r'.warned ∧
      r.mapRequests Request.withoutBody = r'.mapRequests Request.withoutBody ∧
      (∀ call ∈ r.sent, call.1.body = some [0x7b, 0x7d]) ∧
      ∀ call ∈ r'.sent, call.1.body = some [0xff, 0x00] := by
  intro cost r r'
  have overlooks : Script.world (τ := Float).Overlooks Request.withoutBody :=
    ⟨fun _ _ => rfl, fun _ _ => rfl⟩
  have resigns : ∀ signed other, (cost signed).Resigns (cost other) :=
    fun _ _ => .transactionCost _ _
  obtain ⟨result, -, slept, warned, same, body⟩ :=
    Command.opacity_law overlooks (resigns [0x7b, 0x7d] [0xff, 0x00]) .onThisMachine {}
      busyThenPriced
  obtain ⟨-, -, -, -, -, body'⟩ :=
    Command.opacity_law overlooks (resigns [0xff, 0x00] [0x7b, 0x7d]) .onThisMachine {}
      busyThenPriced
  exact ⟨overlooks, resigns _ _, by decide +kernel, by decide +kernel, by decide +kernel,
    by decide +kernel, result, slept, warned, same, body _ rfl, body' _ rfl⟩

end Priced
end GatewayClient
