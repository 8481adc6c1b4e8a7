import GatewayClient.Proofs.Client.Cancelling
import GatewayClient.Proofs.Poll.Behaviour

/-!
# How polls are cancelled

A poll looks at the event before each of its checks and around each of its sleeps, and each check
looks again before its request. So a poll that watches the event heeds it (`Poll.heeds_run`).

A poll reports a cancellation as an outcome, and does so after a signal and only then
(`Poll.attends_run`).
-/

set_option autoImplicit false

namespace GatewayClient

variable {τ α : Type}

/-! ## Errors as results -/

namespace Action

/-- The errors of the gateway as results take no look away. -/
theorem Heeds.attempt {x : Action τ α} (h : x.Heeds) : x.attempt.Heeds := by
  intro log r traces
  obtain ⟨outcome, within, -⟩ := traces_attempt traces
  exact h within

/-- What was to be a result or an error of the gateway is that an operation was cancelled. -/
def gaveIn : Except (ApiError τ) α → Bool
  | .ok _ => false
  | .error e => e.kind == .cancelled

/-- A cancellation among the errors of the gateway is a result like the others. -/
theorem Attends.attempt {watching : Bool} {x : Action τ α}
    (h : Attends watching x fun _ => false) : Attends watching x.attempt gaveIn where
  signals_eq log r traces := by
    obtain ⟨outcome, within, rfl⟩ := traces_attempt traces
    rw [h.signals_eq within]
    cases outcome with
    | ok a => rfl
    | error failure => cases failure <;> rfl
  watched log r traces signalled := by
    obtain ⟨outcome, within, -⟩ := traces_attempt traces
    exact h.watched within signalled

end Action

namespace PollResult

/-- The poll was cancelled. -/
def isCancelled (r : PollResult τ) : Bool := r.outcome == .cancelled

end PollResult

variable [TimeScale τ]

namespace Poll

variable (p : Poll τ) (started : τ) (checks : Nat) (seen : Sighting τ)

/-! ## A poll heeds the event -/

section Heeds

theorem heeds_finish (outcome : PollOutcome) : (finish outcome started checks seen).Heeds :=
  Action.Heeds.clock.bind fun _ => (Action.Aside.pure _).heeds

theorem heeds_giveUp (elapsed : τ) : (p.giveUp started checks seen elapsed).Heeds :=
  (Action.Aside.warn _).heeds.bind fun _ => heeds_finish started checks seen .timedOut

variable {p}

/-- A check heeds the event if what follows it does: its query looks for itself. -/
theorem heeds_check (watched : p.watching = true)
    {wait : Sighting τ → Bool → Action τ (PollResult τ)}
    (waits : ∀ seen rateLimited, (wait seen rateLimited).Heeds) :
    (p.check started checks seen wait).Heeds := by
  have query := p.client.madeOf_getTransaction
    { policy := some .single, watching := p.watching } p.hash p.withResults
  rw [show (CallOptions.mk (some .single) p.watching : CallOptions τ).watching = true from watched]
    at query
  refine Action.Heeds.isCancelled.bind fun isSet => ?_
  split
  · exact heeds_finish started checks seen .cancelled
  · refine query.heeds.attempt.bind fun answer => ?_
    split
    next e =>
      split
      next => exact heeds_finish started _ seen .cancelled
      next =>
        split
        next => exact waits _ _
        next =>
          split
          next => exact (Action.Aside.warn _).heeds.bind fun _ => waits _ _
          next => exact (Action.Aside.warn _).heeds.bind fun _ => heeds_finish started _ _ .errored
    next tx =>
      dsimp only
      split
      next => exact heeds_finish started _ _ .succeeded
      next =>
        split
        next => exact heeds_finish started _ _ .failed
        next => exact waits _ _

/-- All checks of a poll that watches the event heed it. -/
theorem heeds_checkOn (watched : p.watching = true) (left : Nat) :
    (p.checkOn started left checks seen).Heeds := by
  induction left generalizing checks seen with
  | zero =>
    refine heeds_check started checks seen watched fun seen _ => ?_
    exact Action.Heeds.clock.bind fun now => p.heeds_giveUp started _ seen (now - started)
  | succ left ih =>
    refine heeds_check started checks seen watched fun seen rateLimited => ?_
    refine Action.Heeds.clock.bind fun now => ?_
    refine (p.policy.heeds_schedule checks _ rateLimited).bind fun delay? => ?_
    split
    · exact p.heeds_giveUp started _ seen (now - started)
    · rw [watched]
      refine Action.Heeds.pause.bind fun full => ?_
      split
      · exact ih (checks + 1) seen
      · exact heeds_finish started _ seen .cancelled

/-- A poll that watches the event heeds it. -/
theorem heeds_run (watched : p.watching = true) : p.run.Heeds := by
  refine (Client.aside_require "tx_hash" p.hash).heeds.bind fun _ => ?_
  exact Action.Heeds.clock.bind fun started => heeds_checkOn started 0 {} watched p.policy.retries

end Heeds

/-! ## A poll attends to the event -/

section Attends

/-- A poll ends as cancelled after a signal. -/
theorem finish_cancelled : (finish .cancelled started checks seen).Ensures (fun _ => True)
    (fun failure => failure.isCancelled = true) fun r => r.isCancelled = true :=
  (Action.Ensures.clock fun _ => trivial).bind fun _ _ => .pure rfl

/-- A poll that finishes in another way was not cancelled, and got no signal. -/
theorem attends_finish {outcome : PollOutcome} (other : (outcome == .cancelled) = false) :
    Action.Attends p.watching (finish outcome started checks seen) PollResult.isCancelled := by
  refine Action.Attends.clock.followed fun now => .of_ensures ?_
  exact .pure other

theorem attends_giveUp (elapsed : τ) :
    Action.Attends p.watching (p.giveUp started checks seen elapsed) PollResult.isCancelled :=
  (Action.Aside.warn _).attends.followed fun _ => p.attends_finish started checks seen rfl

/-- A check attends to the event if what follows it does. -/
theorem attends_check {wait : Sighting τ → Bool → Action τ (PollResult τ)}
    (waits : ∀ seen rateLimited,
      Action.Attends p.watching (wait seen rateLimited) PollResult.isCancelled) :
    Action.Attends p.watching (p.check started checks seen wait) PollResult.isCancelled := by
  have query := p.client.madeOf_getTransaction
    { policy := some .single, watching := p.watching } p.hash p.withResults
  refine Action.Attends.isCancelled.bind (fun isSet (unset : isSet = false) => ?_)
    fun isSet (set : isSet = true) => ?_
  · rw [unset, if_neg Bool.false_ne_true]
    refine query.attends.attempt.bind (fun answer alive => ?_) fun answer gaveIn => ?_
    · split
      next e =>
        split
        next cancelled => exact absurd cancelled (Bool.eq_false_iff.mp alive)
        next =>
          split
          next => exact waits _ _
          next =>
            split
            next => exact (Action.Aside.warn _).attends.followed fun _ => waits _ _
            next =>
              exact (Action.Aside.warn _).attends.followed fun _ => p.attends_finish started _ _ rfl
      next tx =>
        dsimp only
        split
        next => exact p.attends_finish started _ _ rfl
        next =>
          split
          next => exact p.attends_finish started _ _ rfl
          next => exact waits _ _
    · cases answer with
      | ok tx => cases gaveIn
      | error e =>
        have cancelled : (e.kind == .cancelled) = true := gaveIn
        dsimp only
        rw [if_pos cancelled]
        exact finish_cancelled started (checks + 1) seen
  · rw [if_pos set]
    exact finish_cancelled started checks seen

/-- All checks attend to the event. -/
theorem attends_checkOn (left : Nat) :
    Action.Attends p.watching (p.checkOn started left checks seen) PollResult.isCancelled := by
  induction left generalizing checks seen with
  | zero =>
    refine p.attends_check started checks seen fun seen _ => ?_
    exact Action.Attends.clock.followed fun now => p.attends_giveUp started _ seen (now - started)
  | succ left ih =>
    refine p.attends_check started checks seen fun seen rateLimited => ?_
    refine Action.Attends.clock.followed fun now => ?_
    refine (p.policy.attends_schedule checks _ rateLimited).followed fun delay? => ?_
    split
    · exact p.attends_giveUp started _ seen (now - started)
    · refine Action.Attends.pause.bind (fun full went => ?_) fun full cut => ?_
      · cases full with
        | true => exact ih (checks + 1) seen
        | false => cases went
      · cases full with
        | true => cases cut
        | false => exact finish_cancelled started (checks + 1) seen

/-- A poll ends as cancelled if it got a signal, and only then. -/
theorem attends_run : Action.Attends p.watching p.run PollResult.isCancelled := by
  refine (Client.aside_require "tx_hash" p.hash).attends.followed fun _ => ?_
  exact Action.Attends.clock.followed fun started => p.attends_checkOn started 0 {} p.policy.retries

end Attends
end Poll
end GatewayClient
