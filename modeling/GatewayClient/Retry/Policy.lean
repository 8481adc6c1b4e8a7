import GatewayClient.Time.Scale

/-!
# Retry policies

A policy bounds the attempts of one operation and spaces them. It never waits itself: it says how
long to wait after the attempt of a given index, or that there is no further attempt.

The delay grows by a factor with each attempt, is stretched after a rate-limited answer, capped,
perturbed at random, and clipped to what is left of the time budget.
-/

set_option autoImplicit false

namespace GatewayClient

/-- How often an operation is tried, and how long it waits between attempts.

`maxDelay` caps a delay before chance has its say, `jitter` is the share of a delay by which it
may be longer or shorter, `deadline` the time that one operation may take from its first attempt
on, and `source` tells which random source perturbs the delays. -/
structure RetryPolicy (τ : Type) [TimeScale τ] where
  maxAttempts : Int := 3
  baseDelay : τ := 0.5
  multiplier : τ := 2.0
  maxDelay : Option τ := some 30.0
  jitter : τ := 0.0
  deadline : Option τ := none
  rateLimitFactor : τ := 2.0
  source : Nat := 0

/-- Why a policy is refused. -/
inductive PolicyFault (τ : Type) where
  | maxAttempts (got : Int)
  | baseDelay (got : τ)
  | multiplier (got : τ)
  | maxDelay (got : τ)
  | jitter (got : τ)
  | deadline (got : τ)
  | rateLimitFactor (got : τ)

variable {τ : Type} [TimeScale τ]

/-- What is reported for a fault. -/
def PolicyFault.message : PolicyFault τ → String
  | .maxAttempts got => "max_attempts must be >= 1, got: " ++ toString got
  | .baseDelay got => "base_delay must be >= 0, got: " ++ TimeScale.display got
  | .multiplier got => "multiplier must be >= 1, got: " ++ TimeScale.display got
  | .maxDelay got => "max_delay must be >= 0, got: " ++ TimeScale.display got
  | .jitter got => "jitter must be in [0, 1), got: " ++ TimeScale.display got
  | .deadline got => "deadline must be > 0, got: " ++ TimeScale.display got
  | .rateLimitFactor got => "rate_limit_factor must be >= 1, got: " ++ TimeScale.display got

namespace RetryPolicy

open TimeScale

/-- The fault, if the field is wrong. -/
def refuse (wrong : Bool) (fault : PolicyFault τ) : Option (PolicyFault τ) :=
  if wrong then some fault else none

/-- The first fault of the fields. A number that compares with nothing passes every test but
that of the jitter. -/
def fault? (p : RetryPolicy τ) : Option (PolicyFault τ) :=
  refuse (p.maxAttempts < 1) (.maxAttempts p.maxAttempts)
    <|> refuse (lt p.baseDelay 0.0) (.baseDelay p.baseDelay)
    <|> refuse (lt p.multiplier 1.0) (.multiplier p.multiplier)
    <|> (p.maxDelay.filter (lt · 0.0)).map .maxDelay
    <|> refuse (!(le 0.0 p.jitter && lt p.jitter 1.0)) (.jitter p.jitter)
    <|> (p.deadline.filter (le · 0.0)).map .deadline
    <|> refuse (lt p.rateLimitFactor 1.0) (.rateLimitFactor p.rateLimitFactor)

/-- Exactly one attempt. -/
def single : RetryPolicy τ := { maxAttempts := 1, baseDelay := 0.0 }

/-- The same delay after every attempt. -/
def constant (interval : τ) (maxAttempts : Int) : RetryPolicy τ :=
  { maxAttempts, baseDelay := interval, multiplier := 1.0, maxDelay := none }

/-- The policy itself, or its first fault. -/
def checked (p : RetryPolicy τ) : Except (PolicyFault τ) (RetryPolicy τ) :=
  match p.fault? with
  | none => .ok p
  | some fault => .error fault

/-- How many attempts may follow the first one. -/
def retries (p : RetryPolicy τ) : Nat := (p.maxAttempts - 1).toNat

/-- No attempt follows the one of this index, by count or by time. -/
def isSpent (p : RetryPolicy τ) (index : Nat) (elapsed : τ) : Bool :=
  p.maxAttempts - 1 ≤ index || p.deadline.any fun deadline => le (deadline - elapsed) 0.0

/-- The time budget is used up. -/
def expired (p : RetryPolicy τ) (elapsed : τ) : Bool :=
  p.deadline.any fun deadline => le deadline elapsed

/-- The delay after the attempt of this index, before chance and budget. -/
def cappedDelay (p : RetryPolicy τ) (index : Nat) (rateLimited : Bool) : Except Overflow τ :=
  match power p.multiplier index with
  | .error cause => .error cause
  | .ok growth =>
    let delay := p.baseDelay * growth
    let delay := if rateLimited then delay * p.rateLimitFactor else delay
    .ok (match p.maxDelay with
      | some maxDelay => least delay maxDelay
      | none => delay)

/-- Chance has a say in the delays. -/
def isJittered (p : RetryPolicy τ) : Bool := lt 0.0 p.jitter

/-- A delay perturbed by a number of `[0, 1)`. -/
def perturb (p : RetryPolicy τ) (delay chance : τ) : τ :=
  delay * (1.0 + p.jitter * (2.0 * chance - 1.0))

/-- A delay clipped to what is left of the budget, and never negative. -/
def clip (p : RetryPolicy τ) (elapsed delay : τ) : τ :=
  let delay := match p.deadline with
    | some deadline => least delay (deadline - elapsed)
    | none => delay
  greatest delay 0.0

/-- The delay after the attempt of this index, if another attempt follows. `chance` perturbs it
where the policy has jitter. -/
def nextDelay (p : RetryPolicy τ) (index : Nat) (elapsed : τ) (rateLimited : Bool) (chance : τ) :
    Except Overflow (Option τ) :=
  if p.isSpent index elapsed then .ok none
  else match p.cappedDelay index rateLimited with
    | .error cause => .error cause
    | .ok delay =>
      .ok (some (p.clip elapsed (if p.isJittered then p.perturb delay chance else delay)))

/-- The wait for a server that asks for `retryAfter` seconds: no shorter than the policy's delay,
and with a deadline no longer than the budget lasts. -/
def honour (p : RetryPolicy τ) (delay elapsed : τ) : (retryAfter : Option τ) → τ
  | none => delay
  | some retryAfter =>
    if le retryAfter delay then delay
    else match p.deadline with
      | some deadline => greatest delay (least retryAfter (deadline - elapsed))
      | none => retryAfter

end RetryPolicy
end GatewayClient
