import GatewayClient.Proofs.Client.Attempts
import GatewayClient.Proofs.Client.Composition
import GatewayClient.Proofs.Poll.Rounds

/-!
# The checks of a poll, step by step

A check looks at the event, makes its query and judges what the answer is worth. In a world that
stands still between requests and sleeps the query sees of the event what the poll saw. So a check
is over where the event is set (`Poll.reaches_check_set`), and else sends one request and comes to
the answer (`Poll.reaches_check`), which it judges by its worth (`Poll.reaches_judge`).

What goes unnoticed on the way is left behind at once: schedules, reports, and the reading of a
payload.
-/

set_option autoImplicit false

namespace GatewayClient

variable {σ τ α β : Type}

/-- A program that does no more than warn leaves the world as it is. -/
theorem Program.state_run_of_warns {w : World σ τ} {p : Program τ α} {s : σ}
    (warns : ∀ e ∈ (p.run w s).events, e.Warns) : (p.run w s).state = s := by
  induction p generalizing s with
  | done _ => rfl
  | warn warning next ih => exact ih fun e mem => warns e (.tail _ mem)
  | send _ _ _ | sendWatched _ _ _ | sleep _ _ _ | clock _ _ | cancelled _ _ | draw _ _ _ =>
    obtain ⟨_, warned⟩ := warns _ (.head _)
    cases warned

namespace Action

variable {w : World σ τ} {x y : Action τ α} {s s' : σ} {acts : Log τ}

/-- What is on the side is over where it began. -/
theorem Aside.reaches (aside : x.Aside) (w : World σ τ) (s : σ) :
    Reaches w x s [] (settled (x.runIn w s).result) s where
  result_eq := rfl
  state_eq := Program.state_run_of_warns (aside.quiet (x.traces_runIn w s))
  acts_eq := by
    refine List.filter_eq_nil_iff.mpr fun e mem => ?_
    obtain ⟨warning, rfl⟩ := aside.quiet (x.traces_runIn w s) e mem
    exact Bool.false_ne_true

/-- The errors of the gateway as results, of what an action comes to. -/
theorem Reaches.attempt (h : Reaches w x s acts y s') :
    Reaches w x.attempt s acts y.attempt s' :=
  h.andThen _

/-- A pause does what it does, and then says whether it was a full one. -/
theorem reaches_pause (w : World σ τ) (delay : τ) (watching : Bool) (s : σ) :
    ∃ acts full s', ∀ {β : Type} (f : Bool → Action τ β),
      Reaches w (pause delay watching >>= f) s acts (f full) s' := by
  obtain ⟨full, ended, -⟩ := traces_pause (traces_runIn (pause delay watching) w s)
  refine ⟨((pause delay watching).runIn w s).events.acts, full,
    ((pause delay watching).runIn w s).state, fun f => ?_⟩
  have went := (reaches_settled w (pause delay watching) s).bind f
  rwa [ended] at went

end Action

variable [TimeScale τ]

/-! ## Schedules -/

namespace RetryPolicy

/-- The making of a schedule goes unnoticed, and fails only where no number expresses a delay. -/
theorem Scheduled.settled {p : RetryPolicy τ} {index : Nat} {elapsed chance : τ}
    {rateLimited : Bool} {log : Log τ} {r : Except (Failure τ) (Option τ)}
    (h : p.Scheduled index elapsed rateLimited chance log r) :
    log.acts = [] ∧ ∃ next, Action.settled r = Action.lift .overflow next := by
  cases h with
  | spent _ => exact ⟨rfl, .ok none, rfl⟩
  | @overflowed cause _ => exact ⟨rfl, .error cause, rfl⟩
  | @delayed delay _ => exact ⟨acts_drawLog p chance, .ok (some delay), rfl⟩

/-- A schedule says what comes next, or finds that no number expresses it. -/
theorem reaches_schedule (w : World σ τ) (p : RetryPolicy τ) (index : Nat) (elapsed : τ)
    (rateLimited : Bool) (s : σ) :
    ∃ (next : Except Overflow (Option τ)) (s' : σ), ∀ {β : Type} (f : Option τ → Action τ β),
      Action.Reaches w (p.schedule index elapsed rateLimited >>= f) s []
        (Action.lift .overflow next >>= f) s' := by
  obtain ⟨chance, scheduled⟩ :=
    traces_schedule ((p.schedule index elapsed rateLimited).traces_runIn w s)
  obtain ⟨quiet, next, ended⟩ := scheduled.settled
  refine ⟨next, ((p.schedule index elapsed rateLimited).runIn w s).state, fun f => ?_⟩
  have went := (Action.reaches_settled w (p.schedule index elapsed rateLimited) s).bind f
  rwa [quiet, ended] at went

end RetryPolicy

/-- A failure of a response that may not pass is for good. -/
theorem Outcome.kind_payload_of_final {outcome : Outcome} {e : ApiError τ}
    (failed : outcome.payload = .error e) (final : e.retryable = false) :
    e.kind = .fatal ∨ e.kind = .decode := by
  have classified := isClassified_payload failed
  unfold ApiError.retryable at final
  cases kind : e.kind with
  | fatal => exact .inl rfl
  | decode => exact .inr rfl
  | transient | rateLimited | timeout =>
    rw [kind] at final
    cases final
  | timedOut | cancelled =>
    rw [kind] at classified
    cases classified

namespace Poll

variable {p : Poll τ} {w : World σ τ} {s s' : σ} {started : τ} {checks : Nat}
variable {seen : Sighting τ} {answer : Except (ApiError τ) TransactionOnNetwork}
variable {wait : Sighting τ → Bool → Action τ (PollResult τ)}

/-! ## Queries -/

section Query

/-- Reading a payload is on the side. -/
theorem aside_read (data : Json.Fields) : (p.read data).Aside :=
  (Client.aside_validate _ _ _).bind fun _ =>
    (Action.Aside.expect _ _).bind fun tx =>
      (p.client.aside_noteStatus tx.rawStatus).bind fun _ => .pure tx

/-- A payload is read to what it decodes to. -/
theorem reaches_read (w : World σ τ) (data : Json.Fields) (s : σ) :
    Action.Reaches w (p.read data) s []
      (Action.settled ((p.decode data).mapError Failure.api)) s := by
  have went := (aside_read (p := p) data).reaches w s
  rwa [(traces_read ((p.read data).traces_runIn w s)).2] at went

/-- The query of a check comes to what its answer is worth. -/
theorem reaches_yield (still : w.Still) (outcome : Outcome) (s : σ) :
    Action.Reaches w (p.call.met 0 (p.call.again started 0 0) (some outcome) >>= p.read).attempt s
      [] (pure (p.yield outcome)) s := by
  cases payload : (outcome.payload : Except (ApiError τ) Json.Fields) with
  | ok data =>
    rw [yield_of_payload payload, Call.met_of_payload payload]
    have read := (reaches_read (p := p) w data s).attempt
    cases decoded : p.decode data <;> rw [decoded] at read <;> exact read
  | error e =>
    cases retryable : e.retryable with
    | false =>
      rw [yield_of_refused payload retryable, Call.met_of_final payload (by rw [retryable]; rfl)]
      exact .refl
    | true =>
      rw [yield_of_retryable payload retryable,
        Call.met_of_retryable payload (by rw [retryable]; rfl)]
      exact ((Action.reaches_clock still _).bind p.read).attempt

end Query

/-! ## Checks -/

section Check

/-- What a check does with what its query came to. -/
def conclude (p : Poll τ) (started : τ) (checks : Nat) (seen : Sighting τ)
    (wait : Sighting τ → Bool → Action τ (PollResult τ))
    (answer : Except (ApiError τ) TransactionOnNetwork) : Action τ (PollResult τ) :=
  match answer with
  | .error e =>
    if e.kind == .cancelled then finish .cancelled started (checks + 1) seen
    else p.judge started checks seen wait answer
  | .ok _ => p.judge started checks seen wait answer

/-- How a poll goes on after a check that decided nothing, with the delay of its policy if another
check follows. -/
def resume (p : Poll τ) (started : τ) (left checks : Nat) (seen : Sighting τ) (elapsed : τ) :
    Option τ → Action τ (PollResult τ)
  | none => p.giveUp started (checks + 1) seen elapsed
  | some delay => do
    if ← Action.pause delay p.watching then p.checkOn started left (checks + 1) seen
    else finish .cancelled started (checks + 1) seen

/-- What follows a check that decided nothing, where some checks are left. -/
def goOn (p : Poll τ) (started : τ) (left checks : Nat) (seen : Sighting τ) (rateLimited : Bool) :
    Action τ (PollResult τ) := do
  let now ← Action.clock
  match left with
  | 0 => p.giveUp started (checks + 1) seen (now - started)
  | left + 1 =>
    let next ← p.policy.schedule checks (now - started) rateLimited
    p.resume started left checks seen (now - started) next

/-- All checks are one, and what follows it. -/
theorem checkOn_eq (left : Nat) :
    p.checkOn started left checks seen =
      p.check started checks seen (p.goOn started left checks) := by
  cases left with
  | zero => rfl
  | succ left => rfl

/-- To finish goes unnoticed in a world that stands still. -/
theorem reaches_finish (still : w.Still) (outcome : PollOutcome) (s : σ) :
    Action.Reaches w (finish outcome started checks seen) s []
      (pure (ended outcome started checks seen (w.clock s).1)) s :=
  Action.reaches_clock still _

theorem reaches_giveUp (still : w.Still) (elapsed : τ) (s : σ) :
    Action.Reaches w (p.giveUp started checks seen elapsed) s []
      (pure (ended .timedOut started checks seen (w.clock s).1)) s :=
  (Action.reaches_warn _ _).after (reaches_finish still .timedOut s)

/-- A report goes unnoticed. -/
theorem reaches_report (w : World σ τ) (s : σ) (f : Unit → Action τ (PollResult τ)) :
    Action.Reaches w (p.report answer >>= f) s [] (f ()) s := by
  unfold report
  split
  next => exact .refl
  next =>
    split
    next => exact .refl
    next => exact Action.reaches_warn _ f

/-- An answer that decides ends the poll. -/
theorem reaches_decided (still : w.Still) {outcome : PollOutcome}
    (decided : decides answer = some outcome) :
    Action.Reaches w (p.judge started checks seen wait answer) s []
      (pure (ended outcome started (checks + 1) (seen.after answer) (w.clock s).1)) s := by
  refine (reaches_report w s _).after ?_
  rw [decided]
  exact reaches_finish still outcome s

/-- An answer that decides nothing leaves the poll to what follows. -/
theorem reaches_undecided (undecided : decides answer = none) :
    Action.Reaches w (p.judge started checks seen wait answer) s []
      (wait (seen.after answer) (rateLimits answer)) s := by
  refine (reaches_report w s _).after ?_
  rw [undecided]
  exact .refl

/-- A check where the event is set ends the poll. -/
theorem reaches_check_set (still : w.Still) (set : w.sees p.watching s = true) :
    Action.Reaches w (p.check started checks seen wait) s []
      (pure (ended .cancelled started checks seen (w.clock s).1)) s := by
  rw [check_eq]
  refine (Action.reaches_isCancelled still p.watching _).after ?_
  rw [set]
  exact reaches_finish still .cancelled s

/-- A check where the event is not set meets the answer to its query, which looks again. -/
theorem reaches_check (still : w.Still) (filled : p.hash ≠ "")
    (unset : w.sees p.watching s = false) :
    Action.Reaches w (p.check started checks seen wait) s
      [.sent p.call.request (w.ask p.call.request p.watching s).1]
      ((p.call.met 0 (p.call.again (w.clock s).1 0 0) (w.ask p.call.request p.watching s).1
        >>= p.read).attempt >>= p.conclude started checks seen wait)
      (w.ask p.call.request p.watching s).2 := by
  have query : Action.Reaches w (p.call.run >>= p.read) s
      [.sent p.call.request (w.ask p.call.request p.watching s).1]
      (p.call.met 0 (p.call.again (w.clock s).1 0 0) (w.ask p.call.request p.watching s).1
        >>= p.read) (w.ask p.call.request p.watching s).2 :=
    ((Action.reaches_clock still _).after (Call.reaches_met still unset)).bind p.read
  rw [check_eq, getTransaction_eq filled]
  refine (Action.reaches_isCancelled still p.watching _).after ?_
  rw [unset]
  exact query.attempt.bind (p.conclude started checks seen wait)

/-- An answer is judged by what it is worth. -/
theorem reaches_judge (still : w.Still) (outcome : Outcome) (now : τ) (s : σ) :
    Action.Reaches w
      ((p.call.met 0 (p.call.again now 0 0) (some outcome) >>= p.read).attempt
        >>= p.conclude started checks seen wait) s []
      (p.judge started checks seen wait (p.yield outcome)) s := by
  have judged : p.conclude started checks seen wait (p.yield outcome) =
      p.judge started checks seen wait (p.yield outcome) := by
    unfold conclude
    split
    next e failed => rw [if_neg (mt beq_iff_eq.mp (kind_yield_ne_cancelled failed))]
    next => rfl
  rw [← judged]
  exact (reaches_yield still outcome s).bind _

end Check

end Poll
end GatewayClient
