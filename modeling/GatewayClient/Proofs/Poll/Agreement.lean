import GatewayClient.Proofs.Poll.Law
import GatewayClient.Proofs.Poll.Steps
import GatewayClient.Time.Exact

/-!
# Polls and retries agree

A poll and a retried query are two loops with books of their own. A query repeats its request after
a failure that may pass, and a poll makes a query of a single attempt for each check: what comes to
the poll as given up is what the query repeats.

**They go in lock-step** (`Poll.inStep_attempts`) while the answers leave no room for a difference
(`Poll.settles`): a poll also waits for a transaction that is pending or not known yet, which ends a
query, and only a query honours a wait that the gateway asks for. So **they agree**
(`Poll.run_agrees`): the same requests and sleeps, and ends that mean the same.

The world stands still between requests and sleeps (`World.Still`), for a poll looks at the event
and at the clock more often than a query does.
-/

set_option autoImplicit false

namespace GatewayClient

variable {σ τ : Type}

/-- The answers to an action are the answers on the way, and then those to what it reaches. -/
theorem Action.Reaches.answers_eq {α : Type} {w : World σ τ} {x y : Action τ α} {s s' : σ}
    {acts : Log τ} (h : Reaches w x s acts y s') :
    (x.runIn w s).events.answers = acts.answers ++ (y.runIn w s').events.answers := by
  rw [← Log.answers_acts, h.acts_eq, Log.answers_append, Log.answers_acts]

/-! ## Ends that mean the same -/

/-- Two errors say the same of what went wrong. -/
structure ApiError.Alike (e e' : ApiError τ) : Prop where
  kind : e.kind = e'.kind
  message : e.message = e'.message
  code : e.code = e'.code
  httpStatus : e.httpStatus = e'.httpStatus

namespace Poll

/-- The end of a query and the end of a poll mean the same. -/
inductive Agrees :
    Except (Failure τ) TransactionOnNetwork → Except (Failure τ) (PollResult τ) → Prop
  | found {tx : TransactionOnNetwork} {r : PollResult τ}
      (outcome : r.outcome = if tx.status == .success then .succeeded else .failed)
      (transaction : r.transaction = some tx) : Agrees (.ok tx) (.ok r)
  | gaveUp {e : ApiError τ} {r : PollResult τ} (kind : e.kind = .timedOut)
      (outcome : r.outcome = .timedOut) (attempts : e.attempts = r.attempts) :
      Agrees (.error (.api e)) (.ok r)
  | cancelled {e : ApiError τ} {r : PollResult τ} (kind : e.kind = .cancelled)
      (outcome : r.outcome = .cancelled) (attempts : e.attempts = r.attempts) :
      Agrees (.error (.api e)) (.ok r)
  | failed {e e' : ApiError τ} {r : PollResult τ} (kind : e.kind = .fatal ∨ e.kind = .decode)
      (outcome : r.outcome = .errored) (error : r.error = some e') (alike : e.Alike e')
      (attempts : e.kind = .fatal → e.attempts = r.attempts) : Agrees (.error (.api e)) (.ok r)
  | overflowed {cause : Overflow} :
      Agrees (.error (.overflow cause)) (.error (.overflow cause))
  | refused {fault : ArgumentFault} :
      Agrees (.error (.argument fault)) (.error (.argument fault))

/-! ## Lock-step -/

/-- A query and a poll go in lock-step from a state of the world on: they do the same, leave the
same world, and agree. -/
structure InStep (w : World σ τ) (x : Action τ TransactionOnNetwork) (y : Action τ (PollResult τ))
    (s : σ) : Prop where
  acts_eq : (x.runIn w s).events.acts = (y.runIn w s).events.acts
  state_eq : (x.runIn w s).state = (y.runIn w s).state
  agrees : Agrees (x.runIn w s).result (y.runIn w s).result

namespace InStep

variable {w : World σ τ} {x x' : Action τ TransactionOnNetwork} {y y' : Action τ (PollResult τ)}
variable {s s' : σ} {acts : Log τ}

/-- Both take a step, and go on in lock-step. -/
theorem step (left : Action.Reaches w x s acts x' s') (right : Action.Reaches w y s acts y' s')
    (rest : InStep w x' y' s') : InStep w x y s where
  acts_eq := by rw [left.acts_eq, right.acts_eq, rest.acts_eq]
  state_eq := by rw [left.state_eq, right.state_eq, rest.state_eq]
  agrees := by
    rw [left.result_eq, right.result_eq]
    exact rest.agrees

/-- Both are at their ends. -/
theorem ends {r : Except (Failure τ) TransactionOnNetwork} {r' : Except (Failure τ) (PollResult τ)}
    (agrees : Agrees r r') : InStep w (Action.settled r) (Action.settled r') s :=
  ⟨rfl, rfl, agrees⟩

end InStep

/-- An error for good ends a poll, unless it says that the transaction is not known. -/
theorem decides_of_final {e : ApiError τ} (kind : e.kind = .fatal ∨ e.kind = .decode)
    (known : e.isNotFound = false) : decides (.error e) = some .errored := by
  refine decides_eq_errored.mpr ⟨e, rfl, known, ?_⟩
  unfold ApiError.mayPass ApiError.retryable
  rcases kind with fatal | decode
  · rw [fatal]
    rfl
  · rw [decode]
    rfl

/-- A transaction in a final state ends a poll. -/
theorem decides_of_terminal {tx : TransactionOnNetwork} (terminal : tx.isTerminal = true) :
    decides (.ok tx : Except (ApiError τ) TransactionOnNetwork) =
      some (if tx.status == .success then .succeeded else .failed) := by
  unfold decides
  dsimp only
  rw [terminal, if_pos rfl]
  split <;> rfl

variable [TimeScale τ]

/-! ## Answers that settle the matter -/

/-- An answer that a poll and a retried query cannot take differently: one that asks for no wait,
and that is a failure which may pass, a transaction in a final state, or an error for good. -/
def settles (p : Poll τ) (outcome : Outcome) : Bool :=
  (outcome.header? "retry-after").isNone &&
    match (outcome.payload : Except (ApiError τ) Json.Fields) with
    | .error e => e.retryable || !e.isNotFound
    | .ok data =>
      match p.decode data with
      | .ok tx => tx.isTerminal
      | .error _ => true

/-- Every answer to an action settles the matter. -/
def Settled {α : Type} (p : Poll τ) (w : World σ τ) (x : Action τ α) (s : σ) : Prop :=
  ∀ outcome ∈ (x.runIn w s).events.answers, p.settles outcome = true

namespace Settled

variable {α : Type} {p : Poll τ} {w : World σ τ} {x y : Action τ α} {s s' : σ} {acts : Log τ}

/-- What an action reaches has only answers that the action has. -/
theorem of_reaches (settled : p.Settled w x s) (h : Action.Reaches w x s acts y s') :
    p.Settled w y s' := by
  intro outcome mem
  refine settled outcome ?_
  rw [h.answers_eq]
  exact List.mem_append_right _ mem

/-- Every answer on the way settles the matter. -/
theorem answered {request : Request τ} {outcome : Outcome} (settled : p.Settled w x s)
    (h : Action.Reaches w x s [.sent request (some outcome)] y s') : p.settles outcome = true := by
  refine settled outcome ?_
  rw [h.answers_eq]
  exact .head _

end Settled

/-- The call of a query that follows the policy of the poll. -/
def retried (p : Poll τ) : Call τ := { p.call with policy := p.policy }

/-- A query that gave up after a failure that may pass leaves the poll undecided. -/
theorem decides_of_gaveUp {c : Call τ} {made : Nat} {e : ApiError τ}
    (retryable : e.retryable = true) : decides (.error (c.gaveUpError made e)) = none := by
  have passes : (c.gaveUpError made e).mayPass = true := by
    show (false || (true && e.retryable)) = true
    rw [retryable]
    rfl
  unfold decides
  dsimp only
  rw [passes, Bool.or_true, if_pos rfl]

variable {p : Poll τ} {w : World σ τ} {s : σ} {started : τ} {left checks : Nat}
variable {seen : Sighting τ} {wait : Sighting τ → Bool → Action τ (PollResult τ)}

/-! ## Round by round -/

/-- A payload that settles the matter is read to the end of both. -/
theorem inStep_payload (still : w.Still) {data : Json.Fields}
    (settles : ∀ tx, p.decode data = .ok tx → tx.isTerminal = true) :
    InStep w (p.read data) (p.judge started checks seen wait (p.decode data)) s := by
  refine .step (reaches_read w data s) .refl ?_
  cases decoded : p.decode data with
  | ok tx =>
    have terminal := decides_of_terminal (τ := τ) (settles tx decoded)
    exact .step .refl (reaches_decided still terminal) (.ends (.found rfl rfl))
  | error e =>
    have kind := kind_decode decoded
    have known : e.isNotFound = false := by
      unfold ApiError.isNotFound
      rw [kind]
      rfl
    have other : e.kind ≠ .fatal := by
      rw [kind]
      exact nofun
    refine .step .refl (reaches_decided still (decides_of_final (.inr kind) known)) (.ends ?_)
    exact .failed (.inr kind) rfl rfl ⟨rfl, rfl, rfl, rfl⟩ fun fatal => absurd fatal other

/-- An answer that settles the matter is met by both in lock-step, if what follows a failure that
may pass goes in lock-step. -/
theorem inStep_answered (still : w.Still) {outcome : Outcome} (settles : p.settles outcome = true)
    (next : ∀ {e : ApiError τ}, outcome.payload = .error e → e.retryable = true →
      e.retryAfter = none →
      InStep w (p.retried.again started left checks (e.counting (checks + 1)) >>= p.read)
        (p.goOn started left checks (seen.after (p.yield outcome)) (e.kind == .rateLimited)) s) :
    InStep w
      (p.retried.met checks (p.retried.again started left checks) (some outcome) >>= p.read)
      (p.judge started checks seen (p.goOn started left checks) (p.yield outcome)) s := by
  obtain ⟨silent, settles⟩ := Bool.and_eq_true_iff.mp settles
  cases payload : (outcome.payload : Except (ApiError τ) Json.Fields) with
  | ok data =>
    rw [payload] at settles
    rw [Call.met_of_payload payload, yield_of_payload payload]
    refine inStep_payload still fun tx decoded => ?_
    dsimp only at settles
    rwa [decoded] at settles
  | error e =>
    rw [payload] at settles
    cases retryable : e.retryable with
    | false =>
      have kind := Outcome.kind_payload_of_final payload retryable
      have known : e.isNotFound = false := by simpa [retryable] using settles
      rw [Call.met_of_final payload (by rw [retryable]; rfl), yield_of_refused payload retryable]
      refine .step .refl (reaches_decided still (decides_of_final kind known)) (.ends ?_)
      exact .failed kind rfl rfl ⟨rfl, rfl, rfl, rfl⟩ fun _ => rfl
    | true =>
      -- An answer that settles the matter asks for no wait, so the policy alone chooses the delay.
      have asksNoWait :=
        Outcome.retryAfter_payload_eq_none (Option.isNone_iff_eq_none.mp silent) payload
      have along := next payload retryable asksNoWait
      have passes : decides (p.yield outcome) = none := by
        rw [yield_of_retryable payload retryable]
        exact decides_of_gaveUp retryable
      have limits : rateLimits (p.yield outcome) = (e.kind == .rateLimited) := by
        rw [yield_of_retryable payload retryable]
        rfl
      rw [Call.met_of_retryable payload (by rw [retryable]; rfl)]
      rw [← limits] at along
      exact .step .refl (reaches_undecided passes) along

/-- A round of both, if what follows an undecided one goes in lock-step. -/
theorem inStep_round (still : w.Still) (filled : p.hash ≠ "")
    (settled : p.Settled w (p.retried.attempts started left checks >>= p.read) s)
    (next : ∀ {e : ApiError τ} {seen : Sighting τ} {s' : σ}, e.retryAfter = none →
      p.Settled w (p.retried.again started left checks e >>= p.read) s' →
      InStep w (p.retried.again started left checks e >>= p.read)
        (p.goOn started left checks seen (e.kind == .rateLimited)) s') :
    InStep w (p.retried.attempts started left checks >>= p.read)
      (p.checkOn started left checks seen) s := by
  rw [checkOn_eq]
  cases set : w.sees p.watching s with
  | true =>
    have stopped : Action.Reaches w (p.retried.attempts started left checks >>= p.read) s []
        (Action.raise (p.retried.cancelledError checks)) s :=
      (Call.reaches_stopped still set).bind p.read
    exact .step stopped (reaches_check_set still set) (.ends (.cancelled rfl rfl rfl))
  | false =>
    have met : Action.Reaches w (p.retried.attempts started left checks >>= p.read) s
        [.sent p.call.request (w.ask p.call.request p.watching s).1]
        (p.retried.met checks (p.retried.again started left checks)
          (w.ask p.call.request p.watching s).1 >>= p.read)
        (w.ask p.call.request p.watching s).2 :=
      (Call.reaches_met still set).bind p.read
    refine .step met (reaches_check still filled set) ?_
    -- Both ask once, and go on from what the world made of the one request.
    generalize w.ask p.call.request p.watching s = asked at met ⊢
    obtain ⟨answer, s'⟩ := asked
    cases answer with
    | none =>
      exact .step .refl (reaches_finish still .cancelled s') (.ends (.cancelled rfl rfl rfl))
    | some outcome =>
      refine .step .refl (reaches_judge still outcome _ s') ?_
      refine inStep_answered still (settled.answered met) fun payload retryable silent => ?_
      have rest := settled.of_reaches met
      dsimp only at rest
      rw [Call.met_of_retryable payload (by rw [retryable]; rfl)] at rest
      exact next silent rest

/-- A wait of both, where the last answer asked for none of its own. -/
theorem inStep_resume (still : w.Still) {e : ApiError τ} (silent : e.retryAfter = none)
    {delay elapsed : τ}
    (settled : p.Settled w
      (p.retried.resume started left checks e elapsed (some delay) >>= p.read) s)
    (next : ∀ {s' : σ}, p.Settled w (p.retried.attempts started left (checks + 1) >>= p.read) s' →
      InStep w (p.retried.attempts started left (checks + 1) >>= p.read)
        (p.checkOn started left (checks + 1) seen) s') :
    InStep w (p.retried.resume started left checks e elapsed (some delay) >>= p.read)
      (p.resume started left checks seen elapsed (some delay)) s := by
  obtain ⟨acts, full, s', paused⟩ := Action.reaches_pause w delay p.watching s
  have waits : p.retried.policy.honour delay elapsed e.retryAfter = delay := by
    rw [silent]
    rfl
  have query : Action.Reaches w
      (p.retried.resume started left checks e elapsed (some delay) >>= p.read) s acts
      ((if full then p.retried.attempts started left (checks + 1)
        else Action.raise (p.retried.cancelledError (checks + 1))) >>= p.read) s' := by
    unfold Call.resume
    dsimp only
    rw [waits]
    exact ((Action.reaches_warn _ _).after (paused _)).bind p.read
  refine .step query (paused _) ?_
  cases full with
  | false =>
    exact .step .refl (reaches_finish still .cancelled s') (.ends (.cancelled rfl rfl rfl))
  | true => exact next (settled.of_reaches query)

/-- From a round on, both go in lock-step: by induction on the attempts that are left. -/
theorem inStep_attempts (still : w.Still) (filled : p.hash ≠ "")
    (settled : p.Settled w (p.retried.attempts started left checks >>= p.read) s) :
    InStep w (p.retried.attempts started left checks >>= p.read)
      (p.checkOn started left checks seen) s := by
  induction left generalizing checks seen s with
  | zero =>
    refine inStep_round still filled settled fun _ _ => ?_
    refine .step ((Action.reaches_clock still _).bind p.read) (Action.reaches_clock still _) ?_
    exact .step .refl (reaches_giveUp still _ _) (.ends (.gaveUp rfl rfl rfl))
  | succ left ih =>
    refine inStep_round still filled settled fun {e} {seen} {s'} silent later => ?_
    -- One run of the schedule serves both: chance is drawn from the same source.
    obtain ⟨next, s₁, scheduled⟩ := p.policy.reaches_schedule w checks
      ((w.clock s').1 - started) (e.kind == .rateLimited) s'
    have query : Action.Reaches w (p.retried.again started (left + 1) checks e >>= p.read) s' []
        ((Action.lift .overflow next >>=
          p.retried.resume started left checks e ((w.clock s').1 - started)) >>= p.read) s₁ :=
      ((Action.reaches_clock still _).after (scheduled _)).bind p.read
    refine .step query ((Action.reaches_clock still _).after (scheduled _)) ?_
    cases next with
    | error cause => exact .ends .overflowed
    | ok delay? =>
      cases delay? with
      | none => exact .step .refl (reaches_giveUp still _ s₁) (.ends (.gaveUp rfl rfl rfl))
      | some delay => exact inStep_resume still silent (later.of_reaches query) fun rest => ih rest

/-- A poll and a query go in lock-step from the start. -/
theorem inStep_run (still : w.Still)
    (settled : p.Settled w (p.client.getTransaction p.hash p.withResults
      { policy := some p.policy, watching := p.watching }) s) :
    InStep w (p.client.getTransaction p.hash p.withResults
      { policy := some p.policy, watching := p.watching }) p.run s := by
  by_cases filled : p.hash = ""
  · rw [Client.getTransaction, run, Client.require_of_empty filled]
    exact .ends .refused
  · have query : Action.Reaches w (p.client.getTransaction p.hash p.withResults
          { policy := some p.policy, watching := p.watching }) s []
        (p.retried.attempts (w.clock s).1 p.policy.retries 0 >>= p.read) s := by
      rw [getTransaction_eq_run filled]
      exact (Action.reaches_clock still _).bind p.read
    have poll : Action.Reaches w p.run s [] (p.checkOn (w.clock s).1 p.policy.retries 0 {}) s := by
      rw [run, Client.require_of_filled (Text.filled_coe filled)]
      exact Action.reaches_clock still _
    exact .step query poll (inStep_attempts still filled (settled.of_reaches query))

/-! ## The agreement -/

/-- A poll agrees with a query that is retried under the same policy, from the same state of the
world, if no answer leaves room for a difference: the same requests and sleeps in the same order,
and ends that mean the same. Nothing happens in the world but while a request or a sleep is under
way. -/
theorem run_agrees (still : w.Still) (p : Poll τ) (s : σ) :
    let query := (p.client.getTransaction p.hash p.withResults
      { policy := some p.policy, watching := p.watching }).runIn w s
    let poll := p.run.runIn w s
    (∀ outcome ∈ query.events.answers, p.settles outcome = true) →
      query.events.acts = poll.events.acts ∧ query.state = poll.state ∧
        Agrees query.result poll.result := by
  intro query poll settles
  have inStep := inStep_run still settles
  exact ⟨inStep.acts_eq, inStep.state_eq, inStep.agrees⟩

theorem Script.still : (Script.world : World (Script τ) τ).Still where
  clock _ := rfl
  cancelled _ := rfl

/-- A poll of a gateway on this machine, which waits half a second after its first check. -/
def busyPoll : Poll Rat where
  client :=
    { config :=
        { baseUrl := simulatorGateway
          apiVersion := .v1
          timeout := 30.0
          retry := {}
          simulator := true
          userAgent := defaultUserAgent } }
  policy := {}
  hash := "ab"

/-- A gateway that is busy at first, and then has the transaction. -/
def busyGateway : Script Rat where
  now := 0.0
  replies :=
    [{ answer := some (.response { status := 503 })
       advance := 0.25 },
     { answer := some (.response
        { status := 200
          content := Bytes.ofText
            ("\x7b\"data\": \x7b\"transaction\": \x7b\"sender\": \"a\", \"receiver\": \"b\", "
              ++ "\"nonce\": 7, \"value\": \"0\", \"status\": \"success\"\x7d\x7d\x7d") })
       advance := 0.25 }]

/-- The poll and the query ask twice and sleep between. -/
theorem run_agrees_busy :
    let query := (busyPoll.client.getTransaction busyPoll.hash busyPoll.withResults
      { policy := some busyPoll.policy, watching := busyPoll.watching }).runIn Script.world
        busyGateway
    let poll := busyPoll.run.runIn Script.world busyGateway
    (∀ outcome ∈ query.events.answers, busyPoll.settles outcome = true) ∧
      query.events.acts.length = 3 ∧ query.events.acts = poll.events.acts ∧
      query.state = poll.state ∧ Agrees query.result poll.result := by
  intro query poll
  have settles : ∀ outcome ∈ query.events.answers, busyPoll.settles outcome = true := by
    decide +kernel
  exact ⟨settles, by decide +kernel, run_agrees Script.still busyPoll busyGateway settles⟩

end Poll
end GatewayClient
