import GatewayClient.Proofs.Client.Rounds

/-!
# Conversations

A chain of calls, each of which makes a single request, is a conversation with the gateway: a call
is made, and the payload of its answer says what comes next. `Conversation.Follows` says which
requests have been made, with which answers, and how it ended, for each way in which it can go.

**A call of a single attempt makes one request** (`Call.asked_of_traces`): it is stopped before it,
loses it to the cancel event, or ends with what its answer is worth. So a chain of such calls
follows its conversation (`Conversation.follows_ask`), and never sleeps.
-/

set_option autoImplicit false

namespace GatewayClient

variable {τ β : Type} [TimeScale τ]

/-! ## A single attempt -/

namespace Call

/-- What an answer is worth to a call that allows a single attempt. -/
def worth (c : Call τ) (outcome : Outcome) : Except (ApiError τ) Json.Fields :=
  outcome.payload.mapError fun e =>
    if e.retryable && c.idempotent then c.gaveUpError 1 (e.counting 1) else e.counting 1

/-- How a call that allows a single attempt can go: by what can be noticed of it, and its result. -/
inductive Asked (c : Call τ) : Log τ → Except (ApiError τ) Json.Fields → Prop
  | stopped (watched : c.watching = true) : Asked c [] (.error (c.cancelledError 0))
  | abandoned (watched : c.watching = true) :
      Asked c [.sent c.request none] (.error (c.cancelledError 1))
  | answered (outcome : Outcome) :
      Asked c [.sent c.request (some outcome)] (c.worth outcome)

variable {c : Call τ} {log : Log τ} {r : Except (Failure τ) Json.Fields}

/-- A call that allows a single attempt never sleeps. -/
theorem Asked.slept_eq {answer : Except (ApiError τ) Json.Fields} (h : c.Asked log answer) :
    log.slept = [] := by
  cases h <;> rfl

/-- A call that allows a single attempt makes one request at most, and fails with nothing but errors
of the gateway. -/
theorem asked_of_traces (single : c.policy.maxAttempts ≤ 1) (h : c.run.Traces log r) :
    ∃ answer, r = answer.mapError .api ∧ c.Asked log.acts answer := by
  have made : ∀ (now : τ) (outcome : Outcome) (rest : Log τ), rest.acts = [] →
      Log.acts (.clock now :: (c.asked outcome ++ rest)) =
        [.sent c.request (some outcome)] := by
    intro now outcome rest quiet
    simp [asked, quiet]
  obtain ⟨started, log, rfl, rounds⟩ := rounds_of_traces_run h
  cases rounds with
  | stopped watched => exact ⟨_, rfl, .stopped watched⟩
  | abandoned watched => exact ⟨_, rfl, .abandoned watched⟩
  | @answered _ outcome data payload =>
    have went := Asked.answered (c := c) outcome
    rw [worth, payload, ← made started outcome [] rfl, List.append_nil] at went
    exact ⟨.ok data, rfl, went⟩
  | @refused _ outcome e failed final =>
    have went := Asked.answered (c := c) outcome
    rw [worth, failed, ← made started outcome [] rfl, List.append_nil] at went
    change c.Asked _ (.error (if e.retryable && c.idempotent then _ else _)) at went
    rw [final] at went
    exact ⟨.error _, rfl, went⟩
  | @gaveUp _ outcome e now retries _ =>
    have went := Asked.answered (c := c) outcome
    rw [worth, retries.failed, ← made started outcome [.clock now] rfl] at went
    change c.Asked _ (.error (if e.retryable && c.idempotent then _ else _)) at went
    rw [retries.retryable, retries.idempotent] at went
    exact ⟨.error _, rfl, went⟩
  -- Under a policy of one attempt there is no delay to compute or to wait.
  | overflowed _ unspent _ =>
    rw [RetryPolicy.isSpent_of_maxAttempts single] at unspent
    cases unspent
  | interrupted _ next _ | again _ next _ _ =>
    exact absurd next (RetryPolicy.nextDelay_ne_some single)

end Call

/-! ## Conversations -/

/-- What is asked of a gateway, call by call, until there is a result. -/
inductive Conversation (τ β : Type) [TimeScale τ] where
  | done (result : Except (Failure τ) β)
  | ask (call : Call τ) (next : Json.Fields → Conversation τ β)

namespace Conversation

/-- Go on from what has been read, or end where it could not be. -/
def reading {α : Type} (read : Except (Failure τ) α) (next : α → Conversation τ β) :
    Conversation τ β :=
  match read with
  | .error failure => .done (.error failure)
  | .ok a => next a

/-- How a conversation can go: by the requests with their answers, and how it ends. Each constructor
but `done` is about the call that comes next: the event stops it, its request is abandoned, its
answer is an error, or the conversation goes on with its payload. -/
inductive Follows : Conversation τ β → List (Request τ × Option Outcome) →
    Except (Failure τ) β → Prop
  | done (result : Except (Failure τ) β) : Follows (.done result) [] result
  | stopped {call : Call τ} {next : Json.Fields → Conversation τ β}
      (watched : call.watching = true) :
      Follows (.ask call next) [] (.error (.api (call.cancelledError 0)))
  | abandoned {call : Call τ} {next : Json.Fields → Conversation τ β}
      (watched : call.watching = true) :
      Follows (.ask call next) [(call.request, none)] (.error (.api (call.cancelledError 1)))
  | refused {call : Call τ} {next : Json.Fields → Conversation τ β} {outcome : Outcome}
      {e : ApiError τ} (failed : call.worth outcome = .error e) :
      Follows (.ask call next) [(call.request, some outcome)] (.error (.api e))
  | answered {call : Call τ} {next : Json.Fields → Conversation τ β} {outcome : Outcome}
      {data : Json.Fields} {sent : List (Request τ × Option Outcome)} {r : Except (Failure τ) β}
      (payload : call.worth outcome = .ok data) (rest : Follows (next data) sent r) :
      Follows (.ask call next) ((call.request, some outcome) :: sent) r

namespace Follows

variable {call : Call τ} {next : Json.Fields → Conversation τ β} {log : Log τ}

/-- A call that fails ends the conversation. -/
theorem of_error {e : ApiError τ} (asked : call.Asked log (.error e)) :
    (Conversation.ask call next).Follows log.sent (.error (.api e)) := by
  generalize eq : (Except.error e : Except (ApiError τ) Json.Fields) = answer at asked
  cases asked with
  | stopped watched =>
    cases eq
    exact .stopped watched
  | abandoned watched =>
    cases eq
    exact .abandoned watched
  | answered outcome => exact .refused eq.symm

/-- A call that is answered is followed by what comes next. -/
theorem of_ok {data : Json.Fields} {sent : List (Request τ × Option Outcome)}
    {r : Except (Failure τ) β} (asked : call.Asked log (.ok data))
    (rest : (next data).Follows sent r) :
    (Conversation.ask call next).Follows (log.sent ++ sent) r := by
  generalize eq : (Except.ok data : Except (ApiError τ) Json.Fields) = answer at asked
  cases asked with
  | stopped _ | abandoned _ => cases eq
  | answered outcome => exact .answered eq.symm rest

/-- The requests with their answers decide how a conversation ends. -/
theorem unique {conversation : Conversation τ β} {sent : List (Request τ × Option Outcome)}
    {r r' : Except (Failure τ) β} (h : conversation.Follows sent r)
    (h' : conversation.Follows sent r') : r = r' := by
  -- A conversation is decided call by call: the log has the answer that each one goes on from.
  induction h with
  | done result =>
    cases h'
    rfl
  | stopped _ =>
    cases h'
    rfl
  | abandoned _ =>
    cases h'
    rfl
  | refused failed =>
    cases h' with
    | refused failed' =>
      cases failed.symm.trans failed'
      rfl
    | answered payload _ => cases failed.symm.trans payload
  | answered payload _ ih =>
    cases h' with
    | refused failed => cases payload.symm.trans failed
    | answered payload' rest =>
      cases payload.symm.trans payload'
      exact ih rest

/-! ## Failures that are no errors of the gateway -/

section Other

variable {sent : List (Request τ × Option Outcome)} {failure : Failure τ}
  (other : ∀ e, failure ≠ .api e)
include other

/-- A failure that is no error of the gateway is not one of a call, so it comes after an answer. -/
theorem exists_answered (h : (Conversation.ask call next).Follows sent (.error failure)) :
    ∃ outcome data rest, call.worth outcome = .ok data ∧
      sent = (call.request, some outcome) :: rest ∧ (next data).Follows rest (.error failure) := by
  cases h with
  | stopped | abandoned | refused => exact absurd rfl (other _)
  | answered payload rest => exact ⟨_, _, _, payload, rfl, rest⟩

/-- Nor is it one of an answer that is malformed. -/
theorem exists_read {α : Type} {read : Except (ApiError τ) α} {next : α → Conversation τ β}
    (h : (reading (read.mapError .api) next).Follows sent (.error failure)) :
    ∃ a, read = .ok a ∧ (next a).Follows sent (.error failure) := by
  cases read with
  | ok a => exact ⟨a, rfl, h⟩
  | error e =>
    cases h
    exact absurd rfl (other e)

/-- Nor is it how a conversation ends that is done with its answers. -/
theorem not_done {result : Except (ApiError τ) β} :
    ¬ (Conversation.done (result.mapError .api)).Follows sent (.error failure) := by
  intro h
  cases result with
  | ok b => cases h
  | error e =>
    cases h
    exact other e rfl

end Other

end Follows

/-! ## Actions that hold a conversation -/

/-- An action holds a conversation: all its traces follow it, without a sleep. -/
def HeldBy (conversation : Conversation τ β) (x : Action τ β) : Prop :=
  ∀ ⦃log r⦄, x.Traces log r → log.slept = [] ∧ conversation.Follows log.sent r

/-- An action without requests and sleeps holds the conversation that says nothing. -/
theorem heldBy_done {x : Action τ β} {result : Except (Failure τ) β}
    (quiet : ∀ ⦃log r⦄, x.Traces log r → log.acts = [] ∧ r = result) :
    (Conversation.done result).HeldBy x := by
  intro log r h
  obtain ⟨none, rfl⟩ := quiet h
  rw [← Log.slept_acts, ← Log.sent_acts, none]
  exact ⟨rfl, .done r⟩

/-- An action that fails holds the conversation that ends so. -/
theorem heldBy_fail (failure : Failure τ) :
    (Conversation.done (.error failure)).HeldBy (Action.fail failure : Action τ β) :=
  heldBy_done fun _ _ h => by
    obtain ⟨rfl, rfl⟩ := Action.traces_fail h
    exact ⟨rfl, rfl⟩

/-- What has been read comes first: it fails, or something goes on from it. -/
theorem heldBy_lift {ε α : Type} {failure : ε → Failure τ} {x : Except ε α} {f : α → Action τ β}
    {next : α → Conversation τ β} (rest : ∀ a, x = .ok a → (next a).HeldBy (f a)) :
    (reading (x.mapError failure) next).HeldBy (Action.lift failure x >>= f) := by
  cases x with
  | error e => exact heldBy_fail (failure e)
  | ok a => exact rest a rfl

/-- A call of a single attempt comes first, and then what is done with its payload. -/
theorem heldBy_ask {call : Call τ} {next : Json.Fields → Conversation τ β}
    {f : Json.Fields → Action τ β} (single : call.policy.maxAttempts ≤ 1)
    (rest : ∀ data, (next data).HeldBy (f data)) :
    (Conversation.ask call next).HeldBy (call.run >>= f) := by
  intro log r h
  rcases Action.traces_bind h with ⟨failure, rfl, cut⟩ | ⟨first, data, last, rfl, went, read⟩
  · obtain ⟨answer, failed, asked⟩ := Call.asked_of_traces single cut
    cases answer with
    | ok data => cases failed
    | error e =>
      cases failed
      rw [← Log.slept_acts, ← Log.sent_acts]
      exact ⟨asked.slept_eq, .of_error asked⟩
  · obtain ⟨answer, gave, asked⟩ := Call.asked_of_traces single went
    obtain ⟨quiet, follows⟩ := rest data read
    cases answer with
    | error e => cases gave
    | ok payload =>
      cases gave
      rw [Log.slept_append, Log.sent_append, quiet, ← Log.slept_acts, ← Log.sent_acts first,
        asked.slept_eq]
      exact ⟨rfl, .of_ok asked follows⟩

end Conversation
end GatewayClient
