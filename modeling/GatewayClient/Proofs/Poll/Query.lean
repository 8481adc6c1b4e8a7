import GatewayClient.Proofs.Poll.Behaviour
import GatewayClient.Proofs.Program.CancelEvent

/-!
# The query of a poll

Each check of a poll asks for its transaction once. What the answer is worth is a function of the
answer (`Poll.yield`): a transaction, or an error that a single attempt reports.

**A query asks once** (`Poll.queried_of_traces`): it is stopped by the event before its request,
loses its request to the event, or yields what its answer is worth.
-/

set_option autoImplicit false

namespace GatewayClient

variable {τ : Type} [TimeScale τ]

namespace Poll

/-! ## The call of a query -/

/-- The query part of the request. -/
def query (p : Poll τ) : Query := if p.withResults then [("withResults", "true")] else []

/-- The route of the request. -/
def route (p : Poll τ) : Route :=
  { method := .get
    path := (template p.client.config.apiVersion .transaction).path [("hash", .text p.hash)]
    query := p.query }

/-- The call that each check makes. -/
def call (p : Poll τ) : Call τ :=
  p.client.callFor .transaction p.route none true
    { policy := some .single, watching := p.watching }

/-! ## What an answer is worth -/

/-- The transaction of a payload. One that its schema lets pass can be read. -/
def decode (p : Poll τ) (data : Json.Fields) : Except (ApiError τ) TransactionOnNetwork :=
  match fits : Schema.transaction.validate "transaction" (.obj data) with
  | .error e => .error e
  | .ok () => .ok (((data.object? "transaction").bind fun tx =>
      TransactionOnNetwork.decode? tx p.hash p.client.statusTable).get
    (Option.isSome_iff_exists.mpr (TransactionOnNetwork.decode?_of_fits
      (Schema.validate_eq_ok_iff.mp fits) p.hash p.client.statusTable)))

/-- What an answer is worth to a check, which allows a single attempt. -/
def yield (p : Poll τ) (outcome : Outcome) : Except (ApiError τ) TransactionOnNetwork :=
  match (outcome.payload : Except (ApiError τ) Json.Fields) with
  | .error e => .error (if e.retryable then p.call.gaveUpError 1 (e.counting 1) else e.counting 1)
  | .ok data => p.decode data

/-- What a check does with a payload. -/
def read (p : Poll τ) (data : Json.Fields) : Action τ TransactionOnNetwork := do
  Client.validate Schema.transaction "transaction" (.obj data)
  let tx ← Action.expect "transaction" ((data.object? "transaction").bind fun tx =>
    TransactionOnNetwork.decode? tx p.hash p.client.statusTable)
  p.client.noteStatus tx.rawStatus
  return tx

variable {p : Poll τ}

/-- The path of the request ends with the hash. -/
theorem path_route : p.route.path = "/transaction/" ++ Percent.encode p.hash := by
  show String.join ["/" ++ "transaction",
    "/" ++ Percent.encode (PathValue.text p.hash).written] = _
  rw [PathValue.written_string]
  simp only [String.join, List.foldl_cons, List.foldl_nil, ← String.append_assoc]
  rfl

/-- The URL ends with the hash, and with the query if results are asked for. -/
theorem url_call : p.call.request.url = p.client.config.baseUrl ++
    ("/transaction/" ++ Percent.encode p.hash ++
      if p.withResults then "?withResults=true" else "") := by
  show p.route.url p.client.config.baseUrl = _
  rw [Route.url, String.append_assoc, path_route]
  cases given : p.withResults <;> simp only [route, query, given] <;> rfl

/-- The transaction is asked for by a call, under any policy, and then the answer is read. -/
theorem getTransaction_eq_run (filled : p.hash ≠ "") (policy : RetryPolicy τ) :
    p.client.getTransaction p.hash p.withResults
        { policy := some policy, watching := p.watching } =
      Call.run { p.call with policy } >>= p.read := by
  obtain ⟨route, resolves⟩ : ∃ route, p.client.config.catalog.route .transaction
      [("hash", .text p.hash)] p.query = .ok route :=
    Catalog.exists_route_slot p.query rfl rfl (PathValue.fills_string filled)
  cases Catalog.eq_of_route_eq_ok resolves
  have calls : p.client.call .transaction [("hash", .text p.hash)] p.query none true
      { policy := some policy, watching := p.watching } = Call.run { p.call with policy } :=
    Client.call_eq_run resolves none true _
  rw [Client.getTransaction, Client.require_of_filled (Text.filled_coe filled), ← calls]
  rfl

/-- The query of a check allows a single attempt. -/
theorem getTransaction_eq (filled : p.hash ≠ "") :
    p.client.getTransaction p.hash p.withResults
        { policy := some .single, watching := p.watching } =
      p.call.run >>= p.read :=
  getTransaction_eq_run filled .single

/-- A payload that does not fit is malformed. -/
theorem decode_of_error {data : Json.Fields} {e : ApiError τ}
    (malformed : Schema.transaction.validate "transaction" (.obj data) = .error e) :
    p.decode data = .error e := by
  unfold decode
  split
  next other same => rw [malformed] at same; cases same; rfl
  next fits => rw [malformed] at fits; cases fits

/-- A payload that fits gives its transaction. -/
theorem decode_of_fits {data : Json.Fields} {tx : TransactionOnNetwork}
    (fits : Schema.transaction.Fits (.obj data))
    (found : ((data.object? "transaction").bind fun tx =>
      TransactionOnNetwork.decode? tx p.hash p.client.statusTable) = some tx) :
    p.decode data = .ok tx := by
  have passes : Schema.transaction.validate "transaction" (.obj data) =
      (.ok () : Except (ApiError τ) Unit) := Schema.validate_eq_ok_iff.mpr fits
  unfold decode
  split
  next e malformed => rw [passes] at malformed; cases malformed
  next => exact congrArg Except.ok (Option.get_of_eq_some _ found)

/-- A payload that gives no transaction is malformed. -/
theorem kind_decode {data : Json.Fields} {e : ApiError τ} (failed : p.decode data = .error e) :
    e.kind = .decode := by
  unfold decode at failed
  split at failed
  next malformed =>
    cases failed
    exact Schema.kind_of_validate malformed
  next => cases failed

/-- Reading an answer gives what its payload decodes to. It may warn of an unknown status. -/
theorem traces_read {data : Json.Fields} {log : Log τ}
    {r : Except (Failure τ) TransactionOnNetwork} (h : (p.read data).Traces log r) :
    log.acts = [] ∧ r = (p.decode data).mapError .api := by
  cases checked : Schema.transaction.validate (τ := τ) "transaction" (.obj data) with
  | error e =>
    rw [decode_of_error checked]
    rcases Action.traces_bind h with ⟨failure, rfl, cut⟩ | ⟨first, _, rest, rfl, passed, -⟩
    · rw [Client.validate, checked] at cut
      obtain ⟨rfl, eq⟩ := Action.traces_fail cut
      cases eq
      exact ⟨rfl, rfl⟩
    · rw [Client.validate, checked] at passed
      obtain ⟨-, eq⟩ := Action.traces_fail passed
      cases eq
  | ok =>
    have fits := Schema.validate_eq_ok_iff.mp checked
    obtain ⟨tx, found⟩ :=
      TransactionOnNetwork.decode?_of_fits fits p.hash p.client.statusTable
    rw [decode_of_fits fits found]
    unfold read at h
    rw [Client.validate, checked, found] at h
    have noted : (do
        p.client.noteStatus tx.rawStatus
        return tx : Action τ TransactionOnNetwork).Traces log r := h
    unfold Client.noteStatus at noted
    split at noted
    next =>
      obtain ⟨rfl, rfl⟩ := Action.traces_pure noted
      exact ⟨rfl, rfl⟩
    next =>
      obtain ⟨rest, rfl, done⟩ := Action.traces_warn noted
      obtain ⟨rfl, rfl⟩ := Action.traces_pure done
      exact ⟨rfl, rfl⟩

/-- A failure that stays yields its error. -/
theorem yield_of_refused {outcome : Outcome} {e : ApiError τ} (failed : outcome.payload = .error e)
    (final : e.retryable = false) : p.yield outcome = .error (e.counting 1) := by
  simp only [yield, failed, final, Bool.false_eq_true, if_false]

/-- A failure that may pass yields the error of a query that gave up. -/
theorem yield_of_retryable {outcome : Outcome} {e : ApiError τ}
    (failed : outcome.payload = .error e) (retryable : e.retryable = true) :
    p.yield outcome = .error (p.call.gaveUpError 1 (e.counting 1)) := by
  simp only [yield, failed, retryable, if_true]

/-- A payload yields what it decodes to. -/
theorem yield_of_payload {outcome : Outcome} {data : Json.Fields}
    (payload : (outcome.payload : Except (ApiError τ) Json.Fields) = .ok data) :
    p.yield outcome = p.decode data := by
  simp only [yield, payload]

/-! ## How a query can go -/

/-- How a query can go: by what it leaves in the log, and what it yields. -/
inductive Queried (p : Poll τ) : Log τ → Except (ApiError τ) TransactionOnNetwork → Prop
  | stopped {now : τ} (watched : p.watching = true) :
      Queried p [.clock now, .cancelled true] (.error (p.call.cancelledError 0))
  | abandoned {log : Log τ} (asked : log.acts = [.sent p.call.request none]) :
      Queried p log (.error (p.call.cancelledError 1))
  | answered {log : Log τ} {outcome : Outcome}
      (asked : log.acts = [.sent p.call.request (some outcome)]) :
      Queried p log (p.yield outcome)

/-- A query asks once, and fails with nothing but errors of the gateway. Its policy allows a single
attempt, so it never waits. -/
theorem queried_of_traces (filled : p.hash ≠ "") {log : Log τ}
    {r : Except (Failure τ) TransactionOnNetwork}
    (h : (p.client.getTransaction p.hash p.withResults
      { policy := some .single, watching := p.watching }).Traces log r) :
    ∃ answer, r = answer.mapError .api ∧ p.Queried log answer := by
  have single : p.call.policy.maxAttempts ≤ 1 := Int.le_refl 1
  have asked : ∀ (now : τ) (outcome : Outcome) (rest : Log τ), rest.acts = [] →
      Log.acts (.clock now :: (p.call.asked outcome ++ rest)) =
        [.sent p.call.request (some outcome)] := by
    intro now outcome rest quiet
    simp [quiet]
  rw [getTransaction_eq filled] at h
  rcases Action.traces_bind h with ⟨failure, rfl, cut⟩ | ⟨first, data, rest, rfl, went, read⟩
  · obtain ⟨started, log, rfl, rounds⟩ := Call.rounds_of_traces_run cut
    cases rounds with
    | stopped watched => exact ⟨.error _, rfl, .stopped watched⟩
    | abandoned watched => exact ⟨.error _, rfl, .abandoned rfl⟩
    | @refused _ outcome e failed final =>
      have answered : p.Queried _ _ := .answered (asked started outcome [] rfl)
      have never : e.retryable = false := by
        rwa [show p.call.idempotent = true from rfl, Bool.and_true] at final
      rw [yield_of_refused failed never, List.append_nil] at answered
      exact ⟨.error _, rfl, answered⟩
    | @gaveUp _ outcome e now retries _ =>
      have answered : p.Queried _ _ := .answered (asked started outcome [.clock now] rfl)
      rw [yield_of_retryable retries.failed retries.retryable] at answered
      exact ⟨.error _, rfl, answered⟩
    -- Under a policy of one attempt there is no delay to compute or to wait.
    | overflowed _ unspent _ =>
      rw [RetryPolicy.isSpent_of_maxAttempts single] at unspent
      cases unspent
    | interrupted _ next _ | again _ next _ _ =>
      exact absurd next (RetryPolicy.nextDelay_ne_some single)
  · obtain ⟨quiet, rfl⟩ := traces_read read
    obtain ⟨started, log, rfl, rounds⟩ := Call.rounds_of_traces_run went
    cases rounds with
    | @answered _ outcome data payload =>
      rw [← yield_of_payload payload]
      exact ⟨_, rfl, .answered (asked started outcome rest quiet)⟩
    | again _ next _ _ => exact absurd next (RetryPolicy.nextDelay_ne_some single)

/-- A check takes what its query yields. -/
theorem queried_of_traces_attempt (filled : p.hash ≠ "") {log : Log τ}
    {r : Except (Failure τ) (Except (ApiError τ) TransactionOnNetwork)}
    (h : (p.client.getTransaction p.hash p.withResults
      { policy := some .single, watching := p.watching }).attempt.Traces log r) :
    ∃ answer, r = .ok answer ∧ p.Queried log answer := by
  obtain ⟨outcome, within, rfl⟩ := Action.traces_attempt h
  obtain ⟨answer, rfl, queried⟩ := queried_of_traces filled within
  refine ⟨answer, ?_, queried⟩
  cases answer <;> rfl

end Poll
end GatewayClient
