import GatewayClient.Client.Basic
import GatewayClient.Proofs.Program.Traces
import GatewayClient.Proofs.Retry.Delays

/-!
# The rounds of a call

A call goes in rounds: look at the cancel event, send the request, and then end or wait for the
next round. `Call.Rounds` says what rounds a call may have made, and with which result, once and for
all worlds; one constructor for each way in which a round can go.

**Nothing else happens** (`Call.rounds_of_traces`): every trace of a call, however often it sends
its request, goes in such rounds.
-/

set_option autoImplicit false

namespace GatewayClient

variable {τ : Type}

/-- The error with the number of requests that led to it. -/
def ApiError.counting (e : ApiError τ) (made : Nat) : ApiError τ := { e with attempts := made }

variable [TimeScale τ]

namespace Call

variable {c : Call τ} {started : τ}

/-- What a request that is answered leaves in the log, with the look at the cancel event that comes
before it. -/
def asked (c : Call τ) (outcome : Outcome) : Log τ :=
  Action.lookLog c.watching false ++ [.sent c.request (some outcome)]

/-- The outcome is a failure after which the call may send its request again. -/
structure Retries (c : Call τ) (outcome : Outcome) (e : ApiError τ) : Prop where
  failed : outcome.payload = .error e
  retryable : e.retryable = true
  idempotent : c.idempotent = true

/-- How long the call waits after a failure, by the delay of its policy. -/
def waitFor (c : Call τ) (delay elapsed : τ) (e : ApiError τ) : τ :=
  c.policy.honour delay elapsed e.retryAfter

/-- What a round that does not end the call leaves in the log after its reading of the clock, up to
the pause. -/
def waitLog (c : Call τ) (made : Nat) (e : ApiError τ) (chance wait : τ) : Log τ :=
  c.policy.drawLog chance ++
    [.warned (.retrying c.operation.name (e.counting made) wait made c.policy.maxAttempts)]

/-- The rounds of a call that started at a time and has made some requests before: what they leave
in the log, and how the call ends. -/
inductive Rounds (c : Call τ) (started : τ) :
    Nat → Log τ → Except (Failure τ) Json.Fields → Prop
  | stopped {made : Nat} (watched : c.watching = true) :
      Rounds c started made [.cancelled true] (.error (.api (c.cancelledError made)))
  | abandoned {made : Nat} (watched : c.watching = true) :
      Rounds c started made [.cancelled false, .sent c.request none]
        (.error (.api (c.cancelledError (made + 1))))
  | answered {made : Nat} {outcome : Outcome} {data : Json.Fields}
      (payload : (outcome.payload : Except (ApiError τ) Json.Fields) = .ok data) :
      Rounds c started made (c.asked outcome) (.ok data)
  | refused {made : Nat} {outcome : Outcome} {e : ApiError τ} (failed : outcome.payload = .error e)
      (final : (e.retryable && c.idempotent) = false) :
      Rounds c started made (c.asked outcome) (.error (.api (e.counting (made + 1))))
  | gaveUp {made : Nat} {outcome : Outcome} {e : ApiError τ} {now : τ}
      (retries : c.Retries outcome e) (spent : c.policy.isSpent made (now - started) = true) :
      Rounds c started made (c.asked outcome ++ [.clock now])
        (.error (.api (c.gaveUpError (made + 1) (e.counting (made + 1)))))
  | overflowed {made : Nat} {outcome : Outcome} {e : ApiError τ} {now : τ} {cause : Overflow}
      (retries : c.Retries outcome e) (unspent : c.policy.isSpent made (now - started) = false)
      (capped : c.policy.cappedDelay made (e.kind == .rateLimited) = .error cause) :
      Rounds c started made (c.asked outcome ++ [.clock now]) (.error (.overflow cause))
  | interrupted {made : Nat} {outcome : Outcome} {e : ApiError τ} {now chance delay : τ}
      {pause : Log τ} (retries : c.Retries outcome e)
      (next : c.policy.nextDelay made (now - started) (e.kind == .rateLimited) chance =
        .ok (some delay))
      (paused : Action.Paused (c.waitFor delay (now - started) e) c.watching pause false) :
      Rounds c started made
        (c.asked outcome ++ .clock now ::
          (c.waitLog (made + 1) e chance (c.waitFor delay (now - started) e) ++ pause))
        (.error (.api (c.cancelledError (made + 1))))
  | again {made : Nat} {outcome : Outcome} {e : ApiError τ} {now chance delay : τ}
      {pause log : Log τ} {r : Except (Failure τ) Json.Fields} (retries : c.Retries outcome e)
      (next : c.policy.nextDelay made (now - started) (e.kind == .rateLimited) chance =
        .ok (some delay))
      (paused : Action.Paused (c.waitFor delay (now - started) e) c.watching pause true)
      (rest : Rounds c started (made + 1) log r) :
      Rounds c started made
        (c.asked outcome ++ .clock now ::
          (c.waitLog (made + 1) e chance (c.waitFor delay (now - started) e) ++ pause ++ log)) r

/-- One attempt ends the call by a rule of its own, or leaves a failure that may pass to what
follows. -/
theorem traces_attempt {made : Nat} {retry : ApiError τ → τ → Action τ Json.Fields} {log : Log τ}
    {r : Except (Failure τ) Json.Fields} (h : (c.attempt started made retry).Traces log r) :
    c.Rounds started made log r ∨
      ∃ outcome e now rest, c.Retries outcome e ∧ log = c.asked outcome ++ .clock now :: rest ∧
        (retry (e.counting (made + 1)) (now - started)).Traces rest r := by
  obtain ⟨isSet, rest, before, rfl, looked⟩ := Action.traces_isCancelled h
  cases isSet with
  | true =>
    obtain ⟨rfl, rfl⟩ := Action.traces_raise looked
    have watched := before rfl
    rw [watched]
    exact .inl (.stopped watched)
  | false =>
    obtain ⟨answer, rest, during, rfl, sent⟩ := Action.traces_send looked
    cases answer with
    | none =>
      obtain ⟨rfl, rfl⟩ := Action.traces_raise sent
      have watched := during rfl
      rw [watched]
      exact .inl (.abandoned watched)
    | some outcome =>
      dsimp only at sent
      split at sent
      next data payload =>
        obtain ⟨rfl, rfl⟩ := Action.traces_pure sent
        exact .inl (.answered payload)
      next e failed =>
        split at sent
        next retries =>
          obtain ⟨retryable, idempotent⟩ := Bool.and_eq_true_iff.mp retries
          obtain ⟨now, rest, rfl, left⟩ := Action.traces_clock sent
          refine .inr ⟨outcome, e, now, rest, ⟨failed, retryable, idempotent⟩, ?_, left⟩
          rw [asked, List.append_assoc, List.singleton_append]
        next final =>
          obtain ⟨rfl, rfl⟩ := Action.traces_raise sent
          exact .inl (.refused failed (Bool.not_eq_true _ ▸ final))

/-- Every trace of a call goes in rounds. The induction is on the attempts that are left: they are
enough for the policy, which ends the call where none is. -/
theorem rounds_of_traces {left made : Nat} (enough : c.policy.retries ≤ made + left) {log : Log τ}
    {r : Except (Failure τ) Json.Fields} (h : (c.attempts started left made).Traces log r) :
    c.Rounds started made log r := by
  -- The last attempt can only give up: the policy has no attempt beyond those that are left.
  induction left generalizing made log with
  | zero =>
    unfold attempts at h
    rcases traces_attempt h with ended | ⟨outcome, e, now, rest, retries, rfl, left⟩
    · exact ended
    · obtain ⟨rfl, rfl⟩ := Action.traces_raise left
      exact .gaveUp retries (RetryPolicy.isSpent_of_retries_le enough)
  | succ left ih =>
    unfold attempts at h
    rcases traces_attempt h with ended | ⟨outcome, e, now, rest, retries, rfl, failed⟩
    · exact ended
    · rcases Action.traces_bind failed with
        ⟨failure, rfl, beyond⟩ | ⟨first, delay?, last, rfl, chosen, chose⟩
      · obtain ⟨chance, scheduled⟩ := RetryPolicy.traces_schedule beyond
        cases scheduled with
        | overflowed next =>
          obtain ⟨unspent, capped⟩ := RetryPolicy.nextDelay_eq_error.mp next
          exact .overflowed retries unspent capped
      · obtain ⟨chance, scheduled⟩ := RetryPolicy.traces_schedule chosen
        cases scheduled with
        | spent next =>
          obtain ⟨rfl, rfl⟩ := Action.traces_raise chose
          exact .gaveUp retries (RetryPolicy.nextDelay_eq_none.mp next)
        | delayed next =>
          obtain ⟨rest, rfl, warned⟩ := Action.traces_warn chose
          rcases Action.traces_bind warned with
            ⟨failure, rfl, cut⟩ | ⟨pause, full, log, rfl, waited, went⟩
          · obtain ⟨full, eq, -⟩ := Action.traces_pause cut
            cases eq
          · obtain ⟨full, eq, paused⟩ := Action.traces_pause waited
            cases eq
            cases full with
            | true =>
              have round := Rounds.again retries next paused (ih (by omega) went)
              rwa [waitLog, List.append_assoc, List.append_assoc] at round
            | false =>
              obtain ⟨rfl, rfl⟩ := Action.traces_raise went
              have round : c.Rounds started made _ _ := .interrupted retries next paused
              rw [List.append_nil]
              rwa [waitLog, List.append_assoc] at round

/-- Every trace of a whole call goes in rounds after its first reading of the clock. -/
theorem rounds_of_traces_run {log : Log τ} {r : Except (Failure τ) Json.Fields}
    (h : c.run.Traces log r) :
    ∃ (started : τ) (rest : Log τ), log = .clock started :: rest ∧ c.Rounds started 0 rest r := by
  obtain ⟨started, rest, rfl, loop⟩ := Action.traces_clock h
  exact ⟨started, rest, rfl, rounds_of_traces (Nat.zero_add _ ▸ Nat.le_refl _) loop⟩

end Call
end GatewayClient
