import GatewayClient.Program.Basic
import GatewayClient.Retry.Policy

/-!
# Schedules as actions

The delay of a policy, with chance drawn from the policy's own source. Chance is drawn only where
the policy has jitter and another attempt follows.
-/

set_option autoImplicit false

namespace GatewayClient.RetryPolicy

variable {τ : Type} [TimeScale τ]

/-- The delay after the attempt of this index, if another attempt follows. -/
def schedule (p : RetryPolicy τ) (index : Nat) (elapsed : τ) (rateLimited : Bool) :
    Action τ (Option τ) := do
  if p.isSpent index elapsed then return none
  let delay ← Action.lift .overflow (p.cappedDelay index rateLimited)
  if p.isJittered then
    let chance ← Action.draw p.source
    return some (p.clip elapsed (p.perturb delay chance))
  else return some (p.clip elapsed delay)

/-- The delay after the attempt of an index that may be out of range. -/
def scheduleAt (p : RetryPolicy τ) (index : Int) (elapsed : τ) (rateLimited : Bool) :
    Action τ (Option τ) :=
  if index < 0 then Action.refuse (.below "attempt_index" 0 index)
  else p.schedule index.toNat elapsed rateLimited

end GatewayClient.RetryPolicy
