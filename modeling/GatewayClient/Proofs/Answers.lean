import GatewayClient.Proofs.Cancellation

/-!
# Every answer can be read

A command under a policy of one attempt, all of whose requests were answered with a status of
success, comes to an end that callers know: its value, or an error of the gateway that says what is
wrong with an answer. Whatever the body is, nothing is looked up that is not there, and nothing is
taken for what it is not.

**The check covers the reading** (`Command.reads_every_answer`): a payload is refused by its schema
or else it is read in full (`decode?_of_fits` of each payload).
-/

set_option autoImplicit false

namespace GatewayClient

variable {σ τ α : Type}

/-- The outcome is a response of success. -/
def Outcome.succeeded : Outcome → Bool
  | .response r => r.ok
  | .failure _ => false

/-- Every request was answered, and with a status of success. -/
def Log.succeeds (log : Log τ) : Bool := log.sent.all fun call => call.2.any Outcome.succeeded

/-- All requests of a log succeeded exactly if those of both its parts did. -/
theorem Log.succeeds_append {log more : Log τ} :
    Log.succeeds (log ++ more) = true ↔ log.succeeds = true ∧ Log.succeeds more = true := by
  rw [succeeds, sent_append, List.all_append, Bool.and_eq_true]
  rfl

/-- The error of an operation whose requests were all answered: a rejection, throttling or a
malformed answer, or that it gave up after throttling. -/
def ApiError.OfAnswer (e : ApiError τ) : Prop :=
  e.kind ∈ [.fatal, .rateLimited, .decode] ∨
    e.kind = .timedOut ∧ ∃ last, e.lastError = some last ∧ last.kind = .rateLimited

variable [TimeScale τ]

/-- A response of success is rejected, throttled or malformed, if it has no payload. -/
theorem Outcome.kind_payload_of_succeeded {outcome : Outcome} (ok : outcome.succeeded = true)
    {e : ApiError τ} (failed : outcome.payload = .error e) :
    e.kind ∈ [.fatal, .rateLimited, .decode] := by
  cases outcome with
  | response r => exact Envelope.kind_unwrap_of_ok ok failed
  | failure f => cases ok

/-- A call that allows one attempt gives a payload or says what is wrong with its answer. -/
theorem Call.ofAnswer {c : Call τ} (single : c.policy.maxAttempts ≤ 1) {log : Log τ}
    {r : Except (Failure τ) Json.Fields} (traces : c.run.Traces log r)
    (succeeds : log.succeeds = true) (unsignalled : log.signals = false) {e : ApiError τ}
    (failed : r = .error (.api e)) : e.OfAnswer := by
  obtain ⟨first, last, -, -, decided⟩ := verdict_of_traces traces
  have alive : Action.cancels (fun _ => false) r = false :=
    (attends_run.signals_eq traces).symm.trans unsignalled
  have ended := (decided first).symm.trans failed
  cases answered : log.answer? with
  | none =>
    rw [answered] at ended
    cases ended
    rw [failed] at alive
    cases alive
  | some outcome =>
    obtain ⟨call, made, answer⟩ := Option.bind_eq_some_iff.mp answered
    have ok : outcome.succeeded = true := by
      have asked := List.all_eq_true.mp succeeds call (List.mem_of_getLast? made)
      rwa [answer] at asked
    rw [answered] at ended
    cases payload : (outcome.payload : Except (ApiError τ) Json.Fields) with
    | ok data =>
      rw [verdict_answered payload] at ended
      cases ended
    | error failure =>
      have kinds := Outcome.kind_payload_of_succeeded ok payload
      cases final : failure.retryable && c.idempotent with
      | false =>
        rw [verdict_refused payload final] at ended
        cases ended
        exact .inl kinds
      | true =>
        obtain ⟨retryable, idempotent⟩ := Bool.and_eq_true_iff.mp final
        -- Of the kinds that a response of success can mean, one allows a retry.
        have throttled : failure.kind = .rateLimited := by
          have passes := ErrorKind.retryable_iff.mp retryable
          cases kind : failure.kind <;> simp [kind] at kinds passes ⊢
        rw [verdict_retries ⟨payload, retryable, idempotent⟩, RetryPolicy.nextDelay_eq_none.mpr
          (RetryPolicy.isSpent_of_maxAttempts single)] at ended
        cases ended
        exact .inr ⟨rfl, _, rfl, throttled⟩

/-- What is made of such calls fails as one of them does, or for good. -/
theorem Action.MadeOf.ofAnswer {p : RetryPolicy τ} {watching : Bool} {n : Nat} {x : Action τ α}
    (h : Action.MadeOf p watching n x) (single : p.maxAttempts ≤ 1) {log : Log τ}
    {r : Except (Failure τ) α} (traces : x.Traces log r) (succeeds : log.succeeds = true)
    (unsignalled : log.signals = false) {e : ApiError τ} (failed : r = .error (.api e)) :
    e.OfAnswer := by
  induction h generalizing log with
  | aside quiet =>
    have lasts := (quiet traces).2
    rw [failed] at lasts
    rcases lasts with ⟨-, fatal | decode⟩
    · exact .inl (by simp [fatal])
    · exact .inl (by simp [decode])
  | call under =>
    rw [← under.policy] at single
    exact Call.ofAnswer single traces succeeds unsignalled failed
  | bind _ _ first next =>
    rcases traces_bind traces with ⟨failure, rfl, cut⟩ | ⟨began, a, rest, rfl, went, followed⟩
    · cases failed
      exact first cut succeeds unsignalled rfl
    · rw [Log.signals_append, Bool.or_eq_false_iff] at unsignalled
      exact next a followed (Log.succeeds_append.mp succeeds).2 unsignalled.2 failed

/-- A command that takes its arguments, under a policy of one attempt, ends with its value or with
an error that says what is wrong with an answer, if every request is answered with a status of
success. The body may be anything. A command that watches the cancel event is not cancelled
meanwhile. What goes on to ask for something by the text of an answer may find a surrogate in it. -/
theorem Command.reads_every_answer (w : World σ τ) (c : Client τ) (o : CallOptions τ)
    (command : Command τ α) (valid : command.Valid c)
    (single : (command.policyInForce c o).maxAttempts = 1) (s : σ) :
    let r := (command.run c o).runIn w s
    r.events.succeeds = true → (o.watching = true → r.events.signals = false) →
      (∃ a, r.result = .ok a) ∨ (∃ e, r.result = .error (.api e) ∧ e.OfAnswer) ∨
        command.echoes = true ∧
          ∃ text : Text, text.toString? = none ∧ r.result = .error (.unencodable text) := by
  intro r succeeds unwatched
  have traces := Action.traces_runIn (command.run c o) w s
  have unsignalled : r.events.signals = false := by
    by_cases watching : o.watching = true
    · exact unwatched watching
    · exact Bool.eq_false_iff.mpr fun told => watching ((command.attends c o).watched traces told)
  have expected := (command.ensures c o traces).2
  cases ended : r.result with
  | ok a => exact .inl ⟨a, rfl⟩
  | error failure =>
    have ended : ((command.run c o).runIn w s).result = .error failure := ended
    rw [ended] at expected
    obtain ⟨expected | ⟨echoes, text, unknown, rfl⟩, typed⟩ := expected
    case inr => exact .inr (.inr ⟨echoes, text, unknown, rfl⟩)
    cases failure with
    | api e =>
      refine .inr (.inl ⟨e, rfl, ?_⟩)
      -- A poll has no errors of the gateway, and a rest has none at all, so a chain of calls is
      -- what is left.
      cases chain : command.calls with
      | some n =>
        have made := (command.madeOf c o chain).1
        exact made.ofAnswer (Int.le_of_eq single) traces succeeds unsignalled ended
      | none =>
        cases command with
        | read | write | call | sendAndConfirm => cases chain
        | poll hash withResults => exact absurd rfl (typed rfl e)
        | pause delay =>
          obtain ⟨full, ok, -⟩ := Action.traces_pause traces
          rw [ended] at ok
          cases ok
    | argument _ | unencodable _ => exact absurd valid expected
    | overflow cause => exact absurd expected (RetryPolicy.not_overflows (Int.le_of_eq single))
    | undecodable what => exact expected.elim

/-- An account that names neither its address nor a user: the one is missing, the other is null. -/
def bareAccount : Reply Float :=
  { answer := some (.response
      { status := 200
        content := Bytes.ofText
          ("\x7b\"data\": \x7b\"account\": \x7b\"balance\": \"007\", \"nonce\": 3.0, "
            ++ "\"username\": null\x7d\x7d\x7d") })
    advance := 0.25 }

/-- Such an account is read, or else the answer is said to be wrong. -/
theorem Command.reads_every_answer_bare :
    let account : Command Float AccountInfo := .read (.account "drt1")
    let o : CallOptions Float := { policy := some .single }
    let r := (account.run .onThisMachine o).runIn Script.world
      { now := 0.0, replies := [bareAccount] }
    account.Valid .onThisMachine ∧ (account.policyInForce .onThisMachine o).maxAttempts = 1 ∧
      r.events.succeeds = true ∧
      ((∃ a, r.result = .ok a) ∨ (∃ e, r.result = .error (.api e) ∧ e.OfAnswer) ∨
        account.echoes = true ∧
          ∃ text : Text, text.toString? = none ∧ r.result = .error (.unencodable text)) := by
  intro account o r
  have valid : ("drt1" : String) ≠ "" := by decide
  have succeeds : r.events.succeeds = true := by decide +kernel
  have law := account.reads_every_answer Script.world .onThisMachine o valid rfl
    { now := 0.0, replies := [bareAccount] }
  exact ⟨valid, rfl, succeeds, law succeeds nofun⟩

end GatewayClient
