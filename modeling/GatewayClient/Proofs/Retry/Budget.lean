import GatewayClient.Proofs.Retry.Delays
import GatewayClient.Time.Exact
import Mathlib.Algebra.Order.Ring.Unbundled.Rat

/-!
# Waiting within a budget

On the exact scale a policy with a deadline never waits beyond it: what is left of the budget bounds
its delays (`RetryPolicy.nextDelay_le`), and also what it makes of a server that asks for a longer
wait (`RetryPolicy.honour_le`). No wait is negative.
-/

set_option autoImplicit false

namespace GatewayClient

namespace TimeScale

variable {a b : Rat}

/-- Nothing, as policies write it. -/
theorem zero_eq : (0.0 : Rat) = 0 := by decide +kernel

theorem least_le_right : least a b ≤ b := by
  unfold least
  split
  next => exact Rat.le_refl
  next above =>
    have above : ¬ b < a := of_decide_eq_false (Bool.eq_false_iff.mpr above)
    exact Rat.not_lt.mp above

theorem le_greatest_left : a ≤ greatest a b := by
  unfold greatest
  split
  next below =>
    have below : a < b := of_decide_eq_true below
    exact Rat.le_of_lt below
  next => exact Rat.le_refl

theorem le_greatest_right : b ≤ greatest a b := by
  unfold greatest
  split
  next => exact Rat.le_refl
  next above =>
    have above : ¬ a < b := of_decide_eq_false (Bool.eq_false_iff.mpr above)
    exact Rat.not_lt.mp above

theorem min_le_least : min a b ≤ least a b := by
  unfold least
  split <;> grind

theorem greatest_le {bound : Rat} (ha : a ≤ bound) (hb : b ≤ bound) : greatest a b ≤ bound := by
  unfold greatest
  split
  next => exact hb
  next => exact ha

end TimeScale

namespace RetryPolicy

open TimeScale

variable {p : RetryPolicy Rat} {deadline elapsed chance delay : Rat} {index : Nat}
variable {rateLimited : Bool}

/-- The deadline of a policy that is accepted is not over at once. -/
theorem deadline_pos (accepted : p.fault? = none) (budget : p.deadline = some deadline) :
    0 < deadline := by
  have later : ¬ deadline ≤ 0.0 :=
    of_decide_eq_false ((accepted_of_fault? accepted).deadline deadline budget)
  rw [zero_eq] at later
  exact Rat.not_le.mp later

/-- A delay is chosen only while some of the budget is left, and no more than that is chosen. -/
theorem nextDelay_le (budget : p.deadline = some deadline)
    (next : p.nextDelay index elapsed rateLimited chance = .ok (some delay)) :
    delay ≤ deadline - elapsed := by
  have unspent := isSpent_of_nextDelay next
  have left : 0 ≤ deadline - elapsed := by
    rw [isSpent, budget, Option.any_some, Bool.or_eq_false_iff] at unspent
    have positive : ¬ deadline - elapsed ≤ 0.0 := of_decide_eq_false unspent.2
    rw [zero_eq] at positive
    exact Rat.le_of_lt (Rat.not_le.mp positive)
  simp only [nextDelay, unspent, Bool.false_eq_true, if_false] at next
  split at next
  next => cases next
  next =>
    simp only [Except.ok.injEq, Option.some.injEq, clip, budget] at next
    rw [← next, zero_eq]
    exact greatest_le least_le_right left

/-- A chosen delay is not negative, whatever the deadline. -/
theorem nextDelay_nonneg
    (next : p.nextDelay index elapsed rateLimited chance = .ok (some delay)) : 0 ≤ delay := by
  unfold nextDelay at next
  split at next
  next => cases next
  next =>
    split at next
    next => cases next
    next =>
      simp only [Except.ok.injEq, Option.some.injEq, clip] at next
      rw [← next, zero_eq]
      exact le_greatest_right

/-- A server that asks for a longer wait gets no more than what is left of the budget. -/
theorem honour_le (budget : p.deadline = some deadline) (within : delay ≤ deadline - elapsed)
    (retryAfter : Option Rat) : p.honour delay elapsed retryAfter ≤ deadline - elapsed := by
  cases retryAfter with
  | none => exact within
  | some asked =>
    simp only [honour, budget]
    split
    next => exact within
    next => exact greatest_le within least_le_right

/-- Without a deadline it gets what it asks for, and with one it gets that or what is left. -/
theorem asked_le_honour (asked : Rat) :
    (p.deadline = none → asked ≤ p.honour delay elapsed (some asked)) ∧
      ∀ deadline, p.deadline = some deadline →
        min asked (deadline - elapsed) ≤ p.honour delay elapsed (some asked) := by
  unfold honour
  dsimp only
  split
  next shorter =>
    have shorter : asked ≤ delay := of_decide_eq_true shorter
    exact ⟨fun _ => shorter, fun _ _ => by grind⟩
  next =>
    refine ⟨fun unbounded => ?_, fun deadline budget => ?_⟩
    · simp only [unbounded, Rat.le_refl]
    · rw [budget]
      exact Rat.le_trans min_le_least le_greatest_right

/-- It gets no less than the policy's delay. -/
theorem le_honour (retryAfter : Option Rat) : delay ≤ p.honour delay elapsed retryAfter := by
  cases retryAfter with
  | none => exact Rat.le_refl
  | some asked =>
    unfold honour
    dsimp only
    split
    next => exact Rat.le_refl
    next longer =>
      have longer : ¬ asked ≤ delay := of_decide_eq_false (Bool.eq_false_iff.mpr longer)
      cases p.deadline with
      | none => exact Rat.le_of_lt (Rat.not_le.mp longer)
      | some deadline => exact le_greatest_left

end RetryPolicy
end GatewayClient
