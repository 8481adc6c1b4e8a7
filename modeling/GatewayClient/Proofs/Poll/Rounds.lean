import GatewayClient.Proofs.Poll.Query

/-!
# The rounds of a poll

A poll goes in rounds: look at the cancel event, ask for the transaction, and then end or wait for
the next round. `Poll.Rounds` says what rounds a poll may have made, and with which result. What a
poll remembers from one round to the next is its `Sighting`.

**Nothing else happens** (`Poll.rounds_of_traces`), for every gateway and every clock, and for a
cancel event that is set at any moment while something else has the floor. So the event is never set
between the look of the poll and the look of its query, and every check that counts has asked.
-/

set_option autoImplicit false

namespace GatewayClient

variable {τ : Type} [TimeScale τ]

/-- What a poll has seen after a check that yielded this. -/
def Sighting.after {τ : Type} (seen : Sighting τ) :
    Except (ApiError τ) TransactionOnNetwork → Sighting τ
  | .ok tx => { transaction := some tx }
  | .error e => { seen with error := some e }

namespace Poll

/-- How a check ends a poll by what it yielded, if it does. -/
def decides : Except (ApiError τ) TransactionOnNetwork → Option PollOutcome
  | .ok tx =>
    if tx.status == .success then some .succeeded
    else if tx.isTerminal then some .failed
    else none
  | .error e => if e.isNotFound || e.mayPass then none else some .errored

/-- The wait after a check is one after a rate limit. -/
def rateLimits : Except (ApiError τ) TransactionOnNetwork → Bool
  | .ok _ => false
  | .error e => !e.isNotFound && e.root.kind == .rateLimited

/-- The result of a poll that started at one time and finished at another. -/
def ended (outcome : PollOutcome) (started : τ) (checks : Nat) (seen : Sighting τ) (finish : τ) :
    PollResult τ :=
  { outcome
    transaction := seen.transaction
    error := seen.error
    attempts := checks
    elapsed := finish - started }

variable {p : Poll τ} {started : τ}

/-! ## The rounds of a poll -/

/-- The rounds of a poll that started at a time, has made some checks before and remembers a
sighting: what they leave in the log, and how the poll ends. `ask` is what a round leaves in the log
up to the answer of its query. -/
inductive Rounds (p : Poll τ) (started : τ) :
    Nat → Sighting τ → Log τ → Except (Failure τ) (PollResult τ) → Prop
  | stopped {checks : Nat} {seen : Sighting τ} {finish : τ} :
      Rounds p started checks seen [.cancelled true, .clock finish]
        (.ok (ended .cancelled started checks seen finish))
  | abandoned {checks : Nat} {seen : Sighting τ} {ask : Log τ} {finish : τ}
      (asked : ask.acts = [.sent p.call.request none]) :
      Rounds p started checks seen (ask ++ [.clock finish])
        (.ok (ended .cancelled started (checks + 1) seen finish))
  | decided {checks : Nat} {seen : Sighting τ} {ask : Log τ} {outcome : Outcome}
      {verdict : PollOutcome} {finish : τ}
      (asked : ask.acts = [.sent p.call.request (some outcome)])
      (decides : decides (p.yield outcome) = some verdict) :
      Rounds p started checks seen (ask ++ [.clock finish])
        (.ok (ended verdict started (checks + 1) (seen.after (p.yield outcome)) finish))
  | gaveUp {checks : Nat} {seen : Sighting τ} {ask : Log τ} {outcome : Outcome} {now finish : τ}
      {warning : Warning τ} (asked : ask.acts = [.sent p.call.request (some outcome)])
      (undecided : decides (p.yield outcome) = none)
      (spent : p.policy.isSpent checks (now - started) = true) :
      Rounds p started checks seen (ask ++ [.clock now, .warned warning, .clock finish])
        (.ok (ended .timedOut started (checks + 1) (seen.after (p.yield outcome)) finish))
  | overflowed {checks : Nat} {seen : Sighting τ} {ask : Log τ} {outcome : Outcome} {now : τ}
      {cause : Overflow} (asked : ask.acts = [.sent p.call.request (some outcome)])
      (undecided : decides (p.yield outcome) = none) :
      Rounds p started checks seen (ask ++ [.clock now]) (.error (.overflow cause))
  | interrupted {checks : Nat} {seen : Sighting τ} {ask pause : Log τ} {outcome : Outcome}
      {now chance delay finish : τ} (asked : ask.acts = [.sent p.call.request (some outcome)])
      (undecided : decides (p.yield outcome) = none)
      (next : p.policy.nextDelay checks (now - started) (rateLimits (p.yield outcome)) chance =
        .ok (some delay))
      (paused : Action.Paused delay p.watching pause false) :
      Rounds p started checks seen
        (ask ++ .clock now :: (p.policy.drawLog chance ++ pause ++ [.clock finish]))
        (.ok (ended .cancelled started (checks + 1) (seen.after (p.yield outcome)) finish))
  | again {checks : Nat} {seen : Sighting τ} {ask pause log : Log τ} {outcome : Outcome}
      {now chance delay : τ} {r : Except (Failure τ) (PollResult τ)}
      (asked : ask.acts = [.sent p.call.request (some outcome)])
      (undecided : decides (p.yield outcome) = none)
      (next : p.policy.nextDelay checks (now - started) (rateLimits (p.yield outcome)) chance =
        .ok (some delay))
      (paused : Action.Paused delay p.watching pause true)
      (rest : Rounds p started (checks + 1) (seen.after (p.yield outcome)) log r) :
      Rounds p started checks seen
        (ask ++ .clock now :: (p.policy.drawLog chance ++ pause ++ log)) r

/-- What an answer is worth is never that the query was cancelled. -/
theorem kind_yield_ne_cancelled {outcome : Outcome} {e : ApiError τ}
    (h : p.yield outcome = .error e) : e.kind ≠ .cancelled := by
  unfold yield at h
  split at h
  next failure failed =>
    have classified : failure.kind ≠ .cancelled := Outcome.kind_payload_ne_cancelled failed
    split at h
    next => cases h; exact nofun
    next => cases h; exact classified
  next data payload =>
    rw [kind_decode h]
    exact nofun

/-- A poll that finishes reads the clock, and has its result. -/
theorem traces_finish {outcome : PollOutcome} {checks : Nat} {seen : Sighting τ} {log : Log τ}
    {r : Except (Failure τ) (PollResult τ)}
    (h : (finish outcome started checks seen).Traces log r) :
    ∃ now, log = [.clock now] ∧ r = .ok (ended outcome started checks seen now) := by
  obtain ⟨now, rest, rfl, done⟩ := Action.traces_clock h
  obtain ⟨rfl, rfl⟩ := Action.traces_pure done
  exact ⟨now, rfl, rfl⟩

/-! ## One check -/

section Check

variable (p started) (checks : Nat) (seen : Sighting τ)
variable (wait : Sighting τ → Bool → Action τ (PollResult τ))

/-- Report an error that a query yielded. A transaction that is not known yet is no news. -/
def report : Except (ApiError τ) TransactionOnNetwork → Action τ Unit
  | .ok _ => pure ()
  | .error e =>
    if e.isNotFound then pure ()
    else Action.warn (if e.mayPass then .checkFailed p.hash e else .pollStopped p.hash e)

/-- Judge what a query yielded: it ends the poll, or decides nothing. -/
def judge (answer : Except (ApiError τ) TransactionOnNetwork) : Action τ (PollResult τ) := do
  p.report answer
  match decides answer with
  | some outcome => finish outcome started (checks + 1) (seen.after answer)
  | none => wait (seen.after answer) (rateLimits answer)

/-- A check judges what its query yields, unless the query was cancelled. -/
theorem check_eq : p.check started checks seen wait = (do
    if ← Action.isCancelled p.watching then finish .cancelled started checks seen
    else
      let answer ← (p.client.getTransaction p.hash p.withResults
        { policy := some .single, watching := p.watching }).attempt
      match answer with
      | .error e =>
        if e.kind == .cancelled then finish .cancelled started (checks + 1) seen
        else p.judge started checks seen wait answer
      | .ok _ => p.judge started checks seen wait answer) := by
  unfold check
  congr 1
  funext isSet
  split
  next => rfl
  next =>
    congr 1
    funext answer
    cases answer with
    | error e =>
      dsimp only
      split
      next => rfl
      next =>
        -- The three ways to go on after an error are told apart by the same two questions as in
        -- `judge`.
        cases notFound : e.isNotFound with
        | true =>
          simp only [judge, report, decides, rateLimits, notFound, Bool.true_or, if_true]
          rfl
        | false =>
          cases passes : e.mayPass with
          | true =>
            simp only [judge, report, decides, rateLimits, notFound, passes, Bool.or_true,
              Bool.false_eq_true, if_true, if_false]
            rfl
          | false =>
            simp only [judge, report, decides, notFound, passes, Bool.or_self,
              Bool.false_eq_true, if_false]
            rfl
    | ok tx =>
      cases succeeded : tx.status == .success with
      | true =>
        simp only [judge, report, decides, succeeded, if_true]
        rfl
      | false =>
        cases final : tx.isTerminal <;>
          simp only [judge, report, decides, succeeded, final, Bool.false_eq_true, if_true,
            if_false] <;>
          rfl

end Check

/-- Judging leaves no more than a warning in the log before it goes on. -/
theorem traces_judge {checks : Nat} {seen : Sighting τ}
    {wait : Sighting τ → Bool → Action τ (PollResult τ)}
    {answer : Except (ApiError τ) TransactionOnNetwork} {log : Log τ}
    {r : Except (Failure τ) (PollResult τ)}
    (h : (p.judge started checks seen wait answer).Traces log r) :
    ∃ warnings rest, warnings.acts = [] ∧ log = warnings ++ rest ∧
      Action.Traces (match decides answer with
        | some outcome => finish outcome started (checks + 1) (seen.after answer)
        | none => wait (seen.after answer) (rateLimits answer)) rest r := by
  unfold judge report at h
  cases answer with
  | ok tx => exact ⟨[], log, rfl, rfl, h⟩
  | error e =>
    dsimp only at h
    split at h
    next => exact ⟨[], log, rfl, rfl, h⟩
    next =>
      obtain ⟨rest, rfl, followed⟩ := Action.traces_warn h
      exact ⟨[.warned _], rest, rfl, rfl, followed⟩

/-- One check ends the poll by a rule of its own, or leaves an answer that decides nothing to what
follows. -/
theorem traces_check (filled : p.hash ≠ "") {checks : Nat} {seen : Sighting τ}
    {wait : Sighting τ → Bool → Action τ (PollResult τ)} {log : Log τ}
    {r : Except (Failure τ) (PollResult τ)} (h : (p.check started checks seen wait).Traces log r)
    {before after : Bool} (signal : Log.Signal before log after) :
    p.Rounds started checks seen log r ∨
      ∃ outcome ask rest, ask.acts = [.sent p.call.request (some outcome)] ∧
        decides (p.yield outcome) = none ∧ log = ask ++ rest ∧
        (wait (seen.after (p.yield outcome)) (rateLimits (p.yield outcome))).Traces rest r := by
  rw [check_eq] at h
  obtain ⟨isSet, rest, watched, rfl, looked⟩ := Action.traces_isCancelled h
  cases isSet with
  | true =>
    obtain ⟨now, rfl, rfl⟩ := traces_finish looked
    rw [watched rfl]
    exact .inl .stopped
  | false =>
    rcases Action.traces_bind looked with
      ⟨failure, rfl, cut⟩ | ⟨query, answer, rest, rfl, went, followed⟩
    · obtain ⟨answer, eq, -⟩ := queried_of_traces_attempt filled cut
      cases eq
    · obtain ⟨answer, eq, queried⟩ := queried_of_traces_attempt filled went
      cases eq
      cases queried with
      | stopped watching =>
        -- The event was just seen unset, and nothing had the floor since.
        rw [watching] at signal
        cases signal with
        | cancelled signal =>
          cases signal with
          | clock signal => cases signal
      | abandoned asked =>
        obtain ⟨now, rfl, rfl⟩ := traces_finish followed
        rw [← List.append_assoc]
        exact .inl (.abandoned (by simp [asked]))
      | @answered _ outcome asked =>
        have judged : (p.judge started checks seen wait (p.yield outcome)).Traces rest r := by
          cases yielded : p.yield outcome with
          | ok tx =>
            rw [yielded] at followed
            exact followed
          | error e =>
            have alive : ¬ (e.kind == .cancelled) = true :=
              mt beq_iff_eq.mp (kind_yield_ne_cancelled yielded)
            rw [yielded] at followed
            dsimp only at followed
            rwa [if_neg alive] at followed
        obtain ⟨warnings, rest, quiet, rfl, went⟩ := traces_judge judged
        have asks : Log.acts (Action.lookLog p.watching false ++ query ++ warnings) =
            [.sent p.call.request (some outcome)] := by
          simp [asked, quiet]
        rw [← List.append_assoc, ← List.append_assoc]
        cases decision : decides (p.yield outcome) with
        | some verdict =>
          rw [decision] at went
          obtain ⟨now, rfl, rfl⟩ := traces_finish went
          exact .inl (.decided asks decision)
        | none =>
          rw [decision] at went
          exact .inr ⟨outcome, _, rest, asks, decision, rfl, went⟩

/-- Every trace of a poll goes in rounds. The induction is on the checks that are left: they are
enough for the policy, which ends the poll where none is. -/
theorem rounds_of_traces (filled : p.hash ≠ "") {left checks : Nat}
    (enough : p.policy.retries ≤ checks + left) {seen : Sighting τ} {log : Log τ}
    {r : Except (Failure τ) (PollResult τ)} (h : (p.checkOn started left checks seen).Traces log r)
    {before after : Bool} (signal : Log.Signal before log after) :
    p.Rounds started checks seen log r := by
  -- The last check can only give up: the policy has no attempt beyond those that are left.
  induction left generalizing checks seen log before with
  | zero =>
    unfold checkOn at h
    rcases traces_check filled h signal with
      ended | ⟨outcome, ask, rest, asked, undecided, rfl, waited⟩
    · exact ended
    · obtain ⟨now, rest, rfl, gone⟩ := Action.traces_clock waited
      obtain ⟨rest, rfl, finished⟩ := Action.traces_warn gone
      obtain ⟨finish, rfl, rfl⟩ := traces_finish finished
      exact .gaveUp asked undecided (RetryPolicy.isSpent_of_retries_le enough)
  | succ left ih =>
    unfold checkOn at h
    rcases traces_check filled h signal with
      ended | ⟨outcome, ask, rest, asked, undecided, rfl, waited⟩
    · exact ended
    · obtain ⟨now, rest, rfl, timed⟩ := Action.traces_clock waited
      rcases Action.traces_bind timed with
        ⟨failure, rfl, beyond⟩ | ⟨first, delay?, last, rfl, chosen, chose⟩
      · obtain ⟨chance, scheduled⟩ := RetryPolicy.traces_schedule beyond
        cases scheduled with
        | overflowed next => exact .overflowed asked undecided
      · obtain ⟨chance, scheduled⟩ := RetryPolicy.traces_schedule chosen
        cases scheduled with
        | spent next =>
          obtain ⟨rest, rfl, finished⟩ := Action.traces_warn chose
          obtain ⟨finish, rfl, rfl⟩ := traces_finish finished
          exact .gaveUp asked undecided (RetryPolicy.nextDelay_eq_none.mp next)
        | delayed next =>
          rcases Action.traces_bind chose with
            ⟨failure, rfl, cut⟩ | ⟨pause, full, log, rfl, paused, went⟩
          · obtain ⟨full, eq, -⟩ := Action.traces_pause cut
            cases eq
          · obtain ⟨full, eq, paused⟩ := Action.traces_pause paused
            cases eq
            cases full with
            | true =>
              obtain ⟨_, -, signal⟩ := signal.split
              cases signal with
              | clock signal =>
                rw [← List.append_assoc] at signal
                obtain ⟨_, -, signal⟩ := signal.split
                have rest := ih (by omega) went signal
                rw [← List.append_assoc]
                exact .again asked undecided next paused rest
            | false =>
              obtain ⟨finish, rfl, rfl⟩ := traces_finish went
              rw [← List.append_assoc]
              exact .interrupted asked undecided next paused

/-- Every run of a poll goes in rounds after its first reading of the clock. -/
theorem rounds_of_runIn {σ : Type} {w : World σ τ} (event : CancelEvent w) (filled : p.hash ≠ "")
    (s : σ) : ∃ (started : τ) (rest : Log τ), (p.run.runIn w s).events = .clock started :: rest ∧
      p.Rounds started 0 {} rest (p.run.runIn w s).result ∧
      ∃ before, Log.Signal before rest (event.isSet (p.run.runIn w s).state) := by
  have traces := Action.traces_runIn p.run w s
  have signal := event.signal_runIn p.run s
  generalize p.run.runIn w s = ran at traces signal
  unfold run at traces
  rw [Client.require_of_filled (Text.filled_coe filled)] at traces
  obtain ⟨started, rest, logged, loop⟩ := Action.traces_clock traces
  rw [logged] at signal
  cases signal with
  | clock signal =>
    refine ⟨started, rest, logged, rounds_of_traces filled ?_ loop signal, _, signal⟩
    exact Nat.zero_add _ ▸ Nat.le_refl _

end Poll
end GatewayClient
