import GatewayClient.Proofs.Client.Rounds
import GatewayClient.Proofs.Envelope
import GatewayClient.Proofs.Program.CancelEvent
import GatewayClient.Time.Seconds

/-!
# The law of a call

What can be noticed of a call fixes how it ended, and the other way round.

**Requests and sleeps take turns** (`Call.Rounds.alternates`), there are at most as many requests as
the policy allows (`Call.Rounds.sent_le`), and only a failure that may pass is followed by another
request (`Call.Rounds.retried`).

**The end decides** (`Call.Rounds.verdict`): the last answer, the number of requests and the time
since the first reading of the clock give the result. Neither the earlier answers nor chance have a
say in it.
-/

set_option autoImplicit false

namespace GatewayClient

variable {τ : Type} [TimeScale τ]

/-- What became of the last request, if it was answered. -/
def Log.answer? {τ : Type} (log : Log τ) : Option Outcome := log.sent.getLast?.bind (·.2)

namespace Call

variable {c : Call τ} {started : τ}

/-! ## How a call ends -/

/-- How a call ends whose last request became of it what is given. A call without requests ends as
one whose request was abandoned. -/
def verdict (c : Call τ) (made : Nat) (last : Option Outcome) (elapsed chance : τ) :
    Except (Failure τ) Json.Fields :=
  match last with
  | none => .error (.api (c.cancelledError made))
  | some outcome =>
    match (outcome.payload : Except (ApiError τ) Json.Fields) with
    | .ok data => .ok data
    | .error e =>
      if e.retryable && c.idempotent then
        match c.policy.nextDelay (made - 1) elapsed (e.kind == .rateLimited) chance with
        | .ok none => .error (.api (c.gaveUpError made (e.counting made)))
        | .ok (some _) => .error (.api (c.cancelledError made))
        | .error cause => .error (.overflow cause)
      else .error (.api (e.counting made))

section Verdict

variable {made : Nat} {outcome : Outcome} {elapsed chance : τ}

theorem verdict_answered {data : Json.Fields}
    (payload : (outcome.payload : Except (ApiError τ) Json.Fields) = .ok data) :
    c.verdict made (some outcome) elapsed chance = .ok data := by
  simp only [verdict, payload]

/-- A failure that may not be tried again ends the call. -/
theorem verdict_refused {e : ApiError τ} (failed : outcome.payload = .error e)
    (final : (e.retryable && c.idempotent) = false) :
    c.verdict made (some outcome) elapsed chance = .error (.api (e.counting made)) := by
  simp only [verdict, failed, final, Bool.false_eq_true, if_false]

/-- After a failure that may pass, the policy decides. -/
theorem verdict_retries {e : ApiError τ} (retries : c.Retries outcome e) :
    c.verdict made (some outcome) elapsed chance =
      match c.policy.nextDelay (made - 1) elapsed (e.kind == .rateLimited) chance with
      | .ok none => .error (.api (c.gaveUpError made (e.counting made)))
      | .ok (some _) => .error (.api (c.cancelledError made))
      | .error cause => .error (.overflow cause) := by
  obtain ⟨failed, retryable, idempotent⟩ := retries
  simp only [verdict, failed, retryable, idempotent, Bool.and_self, if_true]

/-- A call whose policy has no further attempt gives up. -/
theorem verdict_gaveUp {e : ApiError τ} (retries : c.Retries outcome e)
    (spent : c.policy.isSpent made elapsed = true) :
    c.verdict (made + 1) (some outcome) elapsed chance =
      .error (.api (c.gaveUpError (made + 1) (e.counting (made + 1)))) := by
  rw [verdict_retries retries, Nat.add_sub_cancel, RetryPolicy.nextDelay_eq_none.mpr spent]

/-- A delay beyond the scale ends the call, if its policy has a further attempt. -/
theorem verdict_overflowed {e : ApiError τ} {cause : Overflow} (retries : c.Retries outcome e)
    (unspent : c.policy.isSpent made elapsed = false)
    (capped : c.policy.cappedDelay made (e.kind == .rateLimited) = .error cause) :
    c.verdict (made + 1) (some outcome) elapsed chance = .error (.overflow cause) := by
  rw [verdict_retries retries, Nat.add_sub_cancel,
    RetryPolicy.nextDelay_eq_error.mpr ⟨unspent, capped⟩]

/-- A call that had an attempt left and did not make it was cancelled. -/
theorem verdict_cut {e : ApiError τ} {drawn delay : τ} (retries : c.Retries outcome e)
    (next : c.policy.nextDelay made elapsed (e.kind == .rateLimited) drawn = .ok (some delay)) :
    c.verdict (made + 1) (some outcome) elapsed chance =
      .error (.api (c.cancelledError (made + 1))) := by
  obtain ⟨delay, left⟩ := RetryPolicy.nextDelay_some_of_chance chance next
  rw [verdict_retries retries, Nat.add_sub_cancel, left]

/-- Every error of a call counts its requests. -/
theorem attempts_of_verdict {last : Option Outcome} {e : ApiError τ}
    (h : c.verdict made last elapsed chance = .error (.api e)) : e.attempts = made := by
  unfold verdict at h
  split at h
  next => cases h; rfl
  next =>
    split at h
    next => cases h
    next =>
      split at h
      next =>
        split at h
        next => cases h; rfl
        next => cases h; rfl
        next => cases h
      next => cases h; rfl

/-- A call gives up where its policy has no further attempt, and nowhere else. -/
theorem verdict_timedOut_iff {last : Option Outcome} :
    (∃ e, c.verdict made last elapsed chance = .error (.api e) ∧ e.kind = .timedOut) ↔
      ∃ outcome e, last = some outcome ∧ c.Retries outcome e ∧
        c.policy.nextDelay (made - 1) elapsed (e.kind == .rateLimited) chance = .ok none := by
  constructor
  · rintro ⟨e, ended, timedOut⟩
    cases last with
    | none => cases ended; cases timedOut
    | some outcome =>
      cases payload : (outcome.payload : Except (ApiError τ) Json.Fields) with
      | ok data => rw [verdict_answered payload] at ended; cases ended
      | error failure =>
        cases final : failure.retryable && c.idempotent with
        | false =>
          rw [verdict_refused payload final] at ended
          cases ended
          have classified : failure.kind ≠ .timedOut := Outcome.kind_payload_ne_timedOut payload
          exact absurd timedOut classified
        | true =>
          obtain ⟨retryable, idempotent⟩ := Bool.and_eq_true_iff.mp final
          have retries : c.Retries outcome failure := ⟨payload, retryable, idempotent⟩
          refine ⟨outcome, failure, rfl, retries, ?_⟩
          rw [verdict_retries retries] at ended
          split at ended
          next spent => exact spent
          next => cases ended; cases timedOut
          next => cases ended
  · rintro ⟨outcome, e, rfl, retries, spent⟩
    refine ⟨c.gaveUpError made (e.counting made), ?_, rfl⟩
    rw [verdict_retries retries, spent]

end Verdict

@[simp] theorem acts_asked (outcome : Outcome) :
    (c.asked outcome).acts = [.sent c.request (some outcome)] := by
  rw [asked, Log.acts_append, Action.acts_lookLog]
  rfl

@[simp] theorem readings_asked (outcome : Outcome) : (c.asked outcome).readings = [] := by
  rw [asked, Log.readings_append, Action.readings_lookLog]
  rfl

@[simp] theorem acts_waitLog (made : Nat) (e : ApiError τ) (chance wait : τ) :
    (c.waitLog made e chance wait).acts = [] := by
  rw [waitLog, Log.acts_append, RetryPolicy.acts_drawLog]
  rfl

@[simp] theorem readings_waitLog (made : Nat) (e : ApiError τ) (chance wait : τ) :
    (c.waitLog made e chance wait).readings = [] := by
  rw [waitLog, Log.readings_append, RetryPolicy.readings_drawLog]
  rfl

/-! ## One round -/

section Again

variable {made : Nat} {outcome : Outcome} {e : ApiError τ} {now chance wait : τ} {pause : Log τ}

/-- What can be noticed of a round that another one follows. -/
theorem acts_again (paused : Action.Paused wait c.watching pause true) (log : Log τ) :
    Log.acts (c.asked outcome ++ .clock now :: (c.waitLog made e chance wait ++ pause ++ log)) =
      .sent c.request (some outcome) :: .slept wait :: log.acts := by
  simp [paused.acts_full]

/-- The requests of a round that another one follows: its own comes first. -/
theorem sent_again (paused : Action.Paused wait c.watching pause true) (log : Log τ) :
    Log.sent (c.asked outcome ++ .clock now :: (c.waitLog made e chance wait ++ pause ++ log)) =
      (c.request, some outcome) :: log.sent := by
  rw [← Log.sent_acts, acts_again paused]
  simp [Log.sent_acts]

theorem slept_again (paused : Action.Paused wait c.watching pause true) (log : Log τ) :
    Log.slept (c.asked outcome ++ .clock now :: (c.waitLog made e chance wait ++ pause ++ log)) =
      wait :: log.slept := by
  rw [← Log.slept_acts, acts_again paused]
  simp [Log.slept_acts]

/-- The clock is read once in a round that another one follows. -/
theorem readings_again (paused : Action.Paused wait c.watching pause true) (log : Log τ) :
    Log.readings (c.asked outcome ++ .clock now :: (c.waitLog made e chance wait ++ pause ++ log)) =
      now :: log.readings := by
  simp [paused.readings_eq]

/-- What can be noticed of a round whose pause the event cut short. -/
theorem acts_interrupted (paused : Action.Paused wait c.watching pause false) :
    Log.acts (c.asked outcome ++ .clock now :: (c.waitLog made e chance wait ++ pause)) =
        [.sent c.request (some outcome)] ∨
      Log.acts (c.asked outcome ++ .clock now :: (c.waitLog made e chance wait ++ pause)) =
        [.sent c.request (some outcome), .slept wait] := by
  rcases paused.acts_cut with none | once
  · exact .inl (by simp [none])
  · exact .inr (by simp [once])

/-- The clock is read once in a round whose pause is cut short. -/
theorem readings_interrupted (paused : Action.Paused wait c.watching pause false) :
    Log.readings (c.asked outcome ++ .clock now :: (c.waitLog made e chance wait ++ pause)) =
      [now] := by
  simp [paused.readings_eq]

theorem sent_interrupted (paused : Action.Paused wait c.watching pause false) :
    Log.sent (c.asked outcome ++ .clock now :: (c.waitLog made e chance wait ++ pause)) =
      [(c.request, some outcome)] := by
  rw [← Log.sent_acts]
  rcases acts_interrupted paused with h | h <;> rw [h] <;> rfl

end Again

@[simp] theorem sent_asked (outcome : Outcome) :
    (c.asked outcome).sent = [(c.request, some outcome)] := by
  rw [← Log.sent_acts, acts_asked]
  rfl

@[simp] theorem slept_asked (outcome : Outcome) : (c.asked outcome).slept = [] := by
  rw [← Log.slept_acts, acts_asked]
  rfl

/-! ## All rounds -/

namespace Rounds

variable {made : Nat} {log : Log τ} {r : Except (Failure τ) Json.Fields}

/-- The request and sleeps take turns. -/
theorem alternates (h : c.Rounds started made log r) : Log.Alternates c.request log.acts := by
  induction h with
  | stopped _ => exact .nil
  | abandoned _ => exact .sent none
  | answered _ | refused _ _ =>
    rw [acts_asked]
    exact .sent _
  | gaveUp _ _ | overflowed _ _ _ =>
    rw [Log.acts_append, acts_asked]
    exact .sent _
  | interrupted _ _ paused =>
    rcases acts_interrupted paused with once | slept
    · rw [once]
      exact .sent _
    · rw [slept]
      exact .slept .nil
  | again _ _ paused _ ih =>
    rw [acts_again paused]
    exact .slept ih

/-- There are no more requests than the policy allows. What carries the induction is that a round
follows another one only where the policy has an attempt left. -/
theorem sent_le (h : c.Rounds started made log r) (room : (made : Int) < c.policy.maxAttempts) :
    (made + log.sent.length : Int) ≤ c.policy.maxAttempts := by
  induction h with
  | stopped _ => exact Int.le_of_lt room
  | abandoned _ => exact room
  | answered _ | refused _ _ =>
    rw [sent_asked]
    exact room
  | gaveUp _ _ | overflowed _ _ _ =>
    rw [Log.sent_append, sent_asked]
    exact room
  | interrupted _ _ paused =>
    rw [sent_interrupted paused]
    exact room
  | @again made _ _ _ _ _ _ _ _ _ next paused _ ih =>
    have unspent := RetryPolicy.lt_of_nextDelay next
    have rest := ih (by omega)
    rw [sent_again paused, List.length_cons]
    omega

/-- A request that another one follows was answered by a failure that may pass. -/
theorem retried (h : c.Rounds started made log r) :
    ∀ call ∈ log.sent.dropLast, ∃ outcome e, call.2 = some outcome ∧ c.Retries outcome e := by
  induction h with
  | stopped _ | abandoned _ => exact nofun
  | answered _ | refused _ _ =>
    rw [sent_asked]
    exact nofun
  | gaveUp _ _ | overflowed _ _ _ =>
    rw [Log.sent_append, sent_asked]
    exact nofun
  | interrupted _ _ paused =>
    rw [sent_interrupted paused]
    exact nofun
  | @again _ outcome e _ _ _ _ log _ retries _ paused _ ih =>
    rw [sent_again paused]
    cases sent : log.sent with
    | nil => exact nofun
    | cons first rest =>
      rw [List.dropLast_cons_cons]
      exact List.forall_mem_cons.mpr ⟨⟨outcome, e, rfl, retries⟩, sent ▸ ih⟩

/-- A call that is not cancelled ends with a request. -/
theorem slept_of_not_cancelled (h : c.Rounds started made log r)
    (uncancelled : ∀ e, r = .error (.api e) → e.kind ≠ .cancelled) :
    log.slept.length + 1 = log.sent.length := by
  induction h with
  | stopped _ | abandoned _ | interrupted _ _ _ => exact absurd rfl (uncancelled _ rfl)
  | answered _ | refused _ _ => rw [slept_asked, sent_asked]; rfl
  | gaveUp _ _ | overflowed _ _ _ =>
    rw [Log.slept_append, slept_asked, Log.sent_append, sent_asked]
    rfl
  | again _ _ paused _ ih =>
    rw [sent_again paused, slept_again paused]
    exact congrArg (· + 1) (ih uncancelled)

/-- A cancelled call saw the event set, or left a request for it. -/
theorem signalled (h : c.Rounds started made log r) {e : ApiError τ}
    (raised : r = .error (.api e)) (cancelled : e.kind = .cancelled) :
    .cancelled true ∈ log ∨ .sent c.request none ∈ log := by
  induction h with
  | stopped _ => exact .inl (.head _)
  | abandoned _ => exact .inr (.tail _ (.head _))
  | answered _ | overflowed _ _ _ => cases raised
  | refused failed _ =>
    cases raised
    have classified := Outcome.kind_payload_ne_cancelled failed
    exact absurd cancelled classified
  | gaveUp _ _ => cases raised; cases cancelled
  | interrupted _ _ paused =>
    have seen := paused.cancelled_mem
    exact .inl (List.mem_append_right _ (.tail _ (List.mem_append_right _ seen)))
  | again _ _ _ _ ih =>
    refine (ih raised).imp (fun seen => ?_) fun left => ?_
    · exact List.mem_append_right _ (.tail _ (List.mem_append_right _ seen))
    · exact List.mem_append_right _ (.tail _ (List.mem_append_right _ left))

/-- The end decides: the last answer, the number of requests, and the time up to the last reading of
the clock. Only a call that is stopped at once has no request. -/
theorem verdict (h : c.Rounds started made log r) :
    log = [.cancelled true] ∧ r = .error (.api (c.cancelledError made)) ∨
      log.sent ≠ [] ∧ ∀ before chance, r = c.verdict (made + log.sent.length) log.answer?
        (log.readings.getLast?.getD before - started) chance := by
  induction h with
  | stopped _ => exact .inl ⟨rfl, rfl⟩
  | abandoned _ => exact .inr ⟨nofun, fun _ _ => rfl⟩
  | answered payload =>
    refine .inr ⟨by simp, fun before chance => ?_⟩
    rw [Log.answer?, sent_asked]
    exact (verdict_answered payload).symm
  | refused failed final =>
    refine .inr ⟨by simp, fun before chance => ?_⟩
    rw [Log.answer?, sent_asked]
    exact (verdict_refused failed final).symm
  | gaveUp retries spent =>
    refine .inr ⟨by simp, fun before chance => ?_⟩
    rw [Log.answer?, Log.sent_append, sent_asked, Log.readings_append, readings_asked]
    exact (verdict_gaveUp retries spent).symm
  | overflowed retries unspent capped =>
    refine .inr ⟨by simp, fun before chance => ?_⟩
    rw [Log.answer?, Log.sent_append, sent_asked, Log.readings_append, readings_asked]
    exact (verdict_overflowed retries unspent capped).symm
  | interrupted retries next paused =>
    refine .inr ⟨by simp [sent_interrupted paused], fun before chance => ?_⟩
    rw [Log.answer?, sent_interrupted paused, readings_interrupted paused]
    exact (verdict_cut retries next).symm
  | @again made outcome e now chance delay pause log r retries next paused _ ih =>
    refine .inr ⟨by simp, fun before chance => ?_⟩
    rw [Log.answer?, sent_again paused, readings_again paused]
    -- The next round may have no request. Then this one is the last, and the call was cut short.
    rcases ih with ⟨rfl, rfl⟩ | ⟨sent, decided⟩
    · exact (verdict_cut retries next).symm
    · rw [decided now chance, List.getLast?_cons_of_ne_nil sent, List.getLast?_cons,
        Option.getD_some, List.length_cons, Nat.add_assoc, Nat.add_comm 1]
      rfl

end Rounds

/-! ## The law of calls -/

/-- What holds of a whole call by its log and its result. `elapsed` is the time from the first
reading of the clock to the last one. -/
structure Law (c : Call τ) (elapsed : τ) (log : Log τ) (r : Except (Failure τ) Json.Fields) :
    Prop where
  alternates : Log.Alternates c.request log.acts
  sent_le : (log.sent.length : Int) ≤ c.policy.maxAttempts
  retried : ∀ call ∈ log.sent.dropLast, ∃ outcome, ∃ e : ApiError τ, call.2 = some outcome ∧
    outcome.payload = .error e ∧ e.kind ∈ [.transient, .rateLimited, .timeout]
  verdict : ∀ chance, r = c.verdict log.sent.length log.answer? elapsed chance
  /-- The call gives up where its policy has no further attempt, and nowhere else. -/
  timedOut_iff : ∀ chance, (∃ e, r = .error (.api e) ∧ e.kind = .timedOut) ↔
    ∃ outcome e, log.answer? = some outcome ∧ c.Retries outcome e ∧
      c.policy.nextDelay (log.sent.length - 1) elapsed (e.kind == .rateLimited) chance = .ok none
  attempts_eq : ∀ e, r = .error (.api e) → e.attempts = log.sent.length
  /-- Only a cancelled call can end with a sleep. -/
  slept_eq : (∀ e, r = .error (.api e) → e.kind ≠ .cancelled) →
    log.slept.length + 1 = log.sent.length

/-- The end of every trace of a call decides how the call ends. -/
theorem verdict_of_traces {log : Log τ} {r : Except (Failure τ) Json.Fields}
    (h : c.run.Traces log r) :
    ∃ first last, log.readings.head? = some first ∧ log.readings.getLast? = some last ∧
      ∀ chance, r = c.verdict log.sent.length log.answer? (last - first) chance := by
  obtain ⟨started, rest, rfl, rounds⟩ := rounds_of_traces_run h
  refine ⟨started, rest.readings.getLast?.getD started, rfl, List.getLast?_cons, ?_⟩
  rcases rounds.verdict with ⟨rfl, rfl⟩ | ⟨-, decided⟩
  · exact fun _ => rfl
  · intro chance
    rw [decided started chance, Nat.zero_add]
    rfl

/-- Every trace of a call whose policy allows an attempt keeps to the law. -/
theorem law_of_traces (allowed : 1 ≤ c.policy.maxAttempts) {log : Log τ}
    {r : Except (Failure τ) Json.Fields} (h : c.run.Traces log r) :
    ∃ first last, log.readings.head? = some first ∧ log.readings.getLast? = some last ∧
      c.Law (last - first) log r := by
  obtain ⟨first, last, head, final, decided⟩ := verdict_of_traces h
  obtain ⟨started, rest, rfl, rounds⟩ := rounds_of_traces_run h
  refine ⟨first, last, head, final, ?_⟩
  exact
    { alternates := rounds.alternates
      sent_le := by simpa using rounds.sent_le (by omega)
      retried := fun call repeated => by
        obtain ⟨outcome, e, answered, retries⟩ := rounds.retried call repeated
        exact ⟨outcome, e, answered, retries.failed, ErrorKind.retryable_iff.mp retries.retryable⟩
      verdict := decided
      timedOut_iff := fun chance => by
        rw [decided chance]
        exact verdict_timedOut_iff
      attempts_eq := fun e raised => attempts_of_verdict ((decided started).symm.trans raised)
      slept_eq := rounds.slept_of_not_cancelled }

end Call

/-! ## Calls by name -/

namespace Client

/-- The call for an operation whose route is known. -/
def callFor (c : Client τ) (op : Operation) (route : Route) (body : Option Bytes)
    (idempotent : Bool) (o : CallOptions τ) : Call τ :=
  { operation := op
    request :=
      { method := route.method
        url := route.url c.config.baseUrl
        body
        timeout := c.config.timeout }
    policy := if idempotent then c.policyFor o else .single
    idempotent
    watching := o.watching }

/-- A call whose route is known is the call for its operation. -/
theorem call_eq_run {c : Client τ} {op : Operation} {values : PathValues} {query : Query}
    {route : Route} (resolves : c.config.catalog.route op values query = .ok route)
    (body : Option Bytes) (idempotent : Bool) (o : CallOptions τ) :
    c.call op values query body idempotent o = (c.callFor op route body idempotent o).run := by
  rw [call, resolves]
  rfl

/-- A call by name is the call for the operation of that name. -/
theorem callNamed_eq_run {c : Client τ} {name : String} {values : PathValues} {query : Query}
    {route : Route} (resolves : c.config.catalog.resolve name values query = .ok route)
    (body : Option Bytes) (idempotent : Bool) (o : CallOptions τ) :
    ∃ op, Operation.ofName? name = some op ∧ c.callNamed name values query body idempotent o =
      (c.callFor op route body idempotent o).run := by
  unfold Catalog.resolve at resolves
  split at resolves
  next op found =>
    refine ⟨op, found, ?_⟩
    rw [callNamed, found]
    exact call_eq_run resolves body idempotent o
  next => cases resolves

/-- An idempotent call of any operation that resolves, under any accepted policy, keeps to the law
of calls in every world, and is cancelled only if the event is set. -/
theorem callNamed_lawful {σ : Type} (w : World σ τ) (c : Client τ) (o : CallOptions τ)
    {name : String} {values : PathValues} {query : Query} {route : Route}
    (resolves : c.config.catalog.resolve name values query = .ok route)
    (accepted : (c.policyFor o).fault? = none) (body : Option Bytes) (s : σ) :
    let r := (c.callNamed name values query body true o).runIn w s
    ∃ op first last, Operation.ofName? name = some op ∧
      r.events.readings.head? = some first ∧ r.events.readings.getLast? = some last ∧
      (c.callFor op route body true o).Law (last - first) r.events r.result ∧
      ∀ event : CancelEvent w, ∀ e, r.result = .error (.api e) → e.kind = .cancelled →
        event.isSet r.state = true := by
  obtain ⟨op, found, eq⟩ := callNamed_eq_run resolves body true o
  rw [eq]
  have traces := Action.traces_runIn (c.callFor op route body true o).run w s
  have allowed : 1 ≤ (c.callFor op route body true o).policy.maxAttempts :=
    RetryPolicy.one_le_maxAttempts accepted
  obtain ⟨first, last, head, final, law⟩ := Call.law_of_traces allowed traces
  refine ⟨op, first, last, found, head, final, law, fun event e raised cancelled => ?_⟩
  have signal := event.signal_runIn (c.callFor op route body true o).run s
  obtain ⟨started, rest, logged, rounds⟩ := Call.rounds_of_traces_run traces
  rw [logged] at signal
  rcases rounds.signalled raised cancelled with seen | left
  · exact signal.set_of_cancelled (.tail _ seen)
  · exact signal.set_of_abandoned (.tail _ left)

/-- A client of the chain simulator on this machine, with the settings that it has by default. -/
def onThisMachine : Client Float where
  config :=
    { baseUrl := simulatorGateway
      apiVersion := .v1
      timeout := 30.0
      retry := {}
      simulator := true
      userAgent := defaultUserAgent }

/-- A client whose first request meets a busy node makes its call by the law. -/
theorem callNamed_lawful_busy :
    let busy : Reply Float := ⟨some (.response { status := 503 }), 0.25, false⟩
    let r := (onThisMachine.callNamed "network_economics" [] [] none true {}).runIn Script.world
      { now := 0.0, replies := [busy, Script.exhausted] }
    ∃ op first last, Operation.ofName? "network_economics" = some op ∧
      r.events.readings.head? = some first ∧ r.events.readings.getLast? = some last ∧
      (onThisMachine.callFor op ⟨.get, "/network/economics", []⟩ none true {}).Law (last - first)
        r.events r.result ∧
      ∀ event : CancelEvent Script.world, ∀ e, r.result = .error (.api e) → e.kind = .cancelled →
        event.isSet r.state = true :=
  callNamed_lawful Script.world onThisMachine {} rfl
    (Option.isNone_iff_eq_none.mp (by decide +kernel)) none _

end Client
end GatewayClient
