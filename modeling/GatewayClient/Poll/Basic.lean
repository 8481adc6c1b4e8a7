import GatewayClient.Client.Reads

/-!
# Waiting for a transaction

A poll asks for a transaction again and again until its state is final, an error ends it, the
budget of its policy is used up, or the cancel event is set. Every check is a single request; the
policy that spaces the checks is the poll's own.

A transaction that the node does not know yet is pending. So are checks that failed in a way that
may pass.
-/

set_option autoImplicit false

namespace GatewayClient

/-- How a poll ended. -/
inductive PollOutcome where
  | succeeded
  | failed
  | timedOut
  | errored
  | cancelled
deriving DecidableEq, Repr, Inhabited

/-- The word for an outcome. -/
def PollOutcome.name : PollOutcome → String
  | .succeeded => "succeeded"
  | .failed => "failed"
  | .timedOut => "timed_out"
  | .errored => "errored"
  | .cancelled => "cancelled"

/-- Why a poll ended, what it saw last, how many checks it made, and how long it took. -/
structure PollResult (τ : Type) where
  outcome : PollOutcome
  transaction : Option TransactionOnNetwork := none
  error : Option (ApiError τ) := none
  attempts : Nat := 0
  elapsed : τ

/-- The transaction was executed. -/
def PollResult.succeeded {τ : Type} (r : PollResult τ) : Bool := r.outcome == .succeeded

variable {τ : Type} [TimeScale τ]

/-- A check each second for up to two minutes. -/
def defaultPollPolicy : RetryPolicy τ :=
  { RetryPolicy.constant 1.0 120 with deadline := some 120.0 }

/-- A poll of one transaction. -/
structure Poll (τ : Type) [TimeScale τ] where
  client : Client τ
  policy : RetryPolicy τ
  hash : String
  withResults : Bool := false
  watching : Bool := false

/-- What a poll has seen so far: the last transaction, and the failure after it. -/
structure Sighting (τ : Type) where
  transaction : Option TransactionOnNetwork := none
  error : Option (ApiError τ) := none

/-- The failure of a check may pass. A check that allows a single request reports such a failure
as given up. -/
def ApiError.mayPass (e : ApiError τ) : Bool :=
  e.retryable || (e.kind == .timedOut && e.lastError.any (·.retryable))

/-- The errors of the gateway as results; other failures pass through. -/
def Action.attempt {α : Type} (action : Action τ α) : Action τ (Except (ApiError τ) α) :=
  ExceptT.mk (action.run.andThen fun
    | .ok a => .done (.ok (.ok a))
    | .error (.api e) => .done (.ok (.error e))
    | .error failure => .done (.error failure))

namespace Poll

/-- End the poll. -/
def finish (outcome : PollOutcome) (started : τ) (checks : Nat) (seen : Sighting τ) :
    Action τ (PollResult τ) := do
  let now ← Action.clock
  return {
    outcome
    transaction := seen.transaction
    error := seen.error
    attempts := checks
    elapsed := now - started }

/-- Make one more check after `checks` ones. What does not end the poll is left to `wait`, with
whether the answer was a rate limit. -/
def check (p : Poll τ) (started : τ) (checks : Nat) (seen : Sighting τ)
    (wait : (seen : Sighting τ) → (rateLimited : Bool) → Action τ (PollResult τ)) :
    Action τ (PollResult τ) := do
  if ← Action.isCancelled p.watching then finish .cancelled started checks seen
  else match ← (p.client.getTransaction p.hash p.withResults
      { policy := some .single, watching := p.watching }).attempt with
    | .error e =>
      if e.kind == .cancelled then finish .cancelled started (checks + 1) seen
      else if e.isNotFound then wait { seen with error := some e } false
      else if e.mayPass then
        Action.warn (.checkFailed p.hash e)
        wait { seen with error := some e } (e.root.kind == .rateLimited)
      else
        Action.warn (.pollStopped p.hash e)
        finish .errored started (checks + 1) { seen with error := some e }
    | .ok tx =>
      let seen : Sighting τ := { transaction := some tx }
      if tx.status == .success then finish .succeeded started (checks + 1) seen
      else if tx.isTerminal then finish .failed started (checks + 1) seen
      else wait seen false

/-- End the poll because its budget is used up. -/
def giveUp (p : Poll τ) (started : τ) (checks : Nat) (seen : Sighting τ) (elapsed : τ) :
    Action τ (PollResult τ) := do
  Action.warn (.pollGaveUp p.hash checks elapsed)
  finish .timedOut started checks seen

/-- Make checks after `checks` ones; after the next one, `left` more may follow. -/
def checkOn (p : Poll τ) (started : τ) :
    (left checks : Nat) → (seen : Sighting τ) → Action τ (PollResult τ)
  | 0, checks, seen =>
    p.check started checks seen fun seen _ => do
      let now ← Action.clock
      p.giveUp started (checks + 1) seen (now - started)
  | left + 1, checks, seen =>
    p.check started checks seen fun seen rateLimited => do
      let now ← Action.clock
      match ← p.policy.schedule checks (now - started) rateLimited with
      | none => p.giveUp started (checks + 1) seen (now - started)
      | some delay =>
        if ← Action.pause delay p.watching then p.checkOn started left (checks + 1) seen
        else finish .cancelled started (checks + 1) seen

/-- Run the poll from its first check on. -/
def run (p : Poll τ) : Action τ (PollResult τ) := do
  Client.require "tx_hash" p.hash
  let started ← Action.clock
  p.checkOn started p.policy.retries 0 {}

end Poll
end GatewayClient
