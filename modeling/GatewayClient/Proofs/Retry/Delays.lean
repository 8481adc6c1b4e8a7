import GatewayClient.Retry.Policy

/-!
# What a policy decides

A policy ends an operation by count or by time (`RetryPolicy.nextDelay_eq_none`), and its delays
overflow by their growth (`RetryPolicy.nextDelay_eq_error`). Chance has a say in neither: it only
moves a delay that there is.
-/

set_option autoImplicit false

namespace GatewayClient.RetryPolicy

variable {τ : Type} [TimeScale τ]
variable {p : RetryPolicy τ} {index : Nat} {elapsed chance : τ} {rateLimited : Bool}

/-- A policy ends an operation by count or by time alone; chance has no say in it. -/
theorem nextDelay_eq_none :
    p.nextDelay index elapsed rateLimited chance = .ok none ↔ p.isSpent index elapsed = true := by
  unfold nextDelay
  split
  next spent => exact ⟨fun _ => spent, fun _ => rfl⟩
  next unspent =>
    refine ⟨fun h => ?_, fun spent => absurd spent unspent⟩
    cases capped : p.cappedDelay index rateLimited <;> rw [capped] at h <;> cases h

/-- Where a delay is chosen, another attempt follows. -/
theorem isSpent_of_nextDelay {delay : τ}
    (next : p.nextDelay index elapsed rateLimited chance = .ok (some delay)) :
    p.isSpent index elapsed = false := by
  apply Bool.eq_false_iff.mpr
  intro spent
  rw [nextDelay_eq_none.mpr spent] at next
  cases next

/-- A delay overflows where another attempt would follow. -/
theorem nextDelay_eq_error {cause : Overflow} :
    p.nextDelay index elapsed rateLimited chance = .error cause ↔
      p.isSpent index elapsed = false ∧ p.cappedDelay index rateLimited = .error cause := by
  unfold nextDelay
  split
  next spent =>
    refine ⟨nofun, fun h => ?_⟩
    rw [spent] at h
    exact absurd h.1 Bool.true_eq_false.mp
  next unspent =>
    rw [Bool.not_eq_true] at unspent
    cases capped : p.cappedDelay index rateLimited with
    | error other => simp only [unspent, Except.error.injEq, true_and]
    | ok delay => simp only [reduceCtorEq, and_false]

/-- After as many attempts as a policy allows there is no further one. -/
theorem isSpent_of_retries_le (h : p.retries ≤ index) : p.isSpent index elapsed = true := by
  unfold retries at h
  have : p.maxAttempts - 1 ≤ index := by omega
  rw [isSpent, decide_eq_true this, Bool.true_or]

/-- An attempt that another one follows comes after others that do. -/
theorem isSpent_eq_false_of_le {earlier : Nat} (le : earlier ≤ index)
    (unspent : p.isSpent index elapsed = false) : p.isSpent earlier elapsed = false := by
  rw [isSpent, Bool.or_eq_false_iff, decide_eq_false_iff_not] at unspent ⊢
  exact ⟨by omega, unspent.2⟩

/-- What the fields of an accepted policy are like. -/
structure Accepted (p : RetryPolicy τ) : Prop where
  maxAttempts : 1 ≤ p.maxAttempts
  baseDelay : TimeScale.lt p.baseDelay 0.0 = false
  multiplier : TimeScale.lt p.multiplier 1.0 = false
  maxDelay : ∀ cap, p.maxDelay = some cap → TimeScale.lt cap 0.0 = false
  jitter : TimeScale.le 0.0 p.jitter = true ∧ TimeScale.lt p.jitter 1.0 = true
  deadline : ∀ deadline, p.deadline = some deadline → TimeScale.le deadline 0.0 = false
  rateLimitFactor : TimeScale.lt p.rateLimitFactor 1.0 = false

theorem refuse_eq_none {τ : Type} {wrong : Bool} {fault : PolicyFault τ} :
    refuse wrong fault = none ↔ wrong = false := by
  cases wrong <;> simp [refuse]

/-- A check of a field that may be missing refuses nothing where the field is not wrong. -/
theorem map_filter_eq_none {α β : Type} {field : Option α} {wrong : α → Bool} {fault : α → β} :
    (field.filter wrong).map fault = none ↔ ∀ a, field = some a → wrong a = false := by
  cases field <;> simp

/-- Each field of a policy without faults passes its own check. -/
theorem accepted_of_fault? (accepted : p.fault? = none) : p.Accepted := by
  simp only [fault?, Option.orElse_eq_orElse, Option.orElse_eq_or, Option.or_eq_none_iff,
    refuse_eq_none, map_filter_eq_none, Bool.not_eq_false', Bool.and_eq_true,
    decide_eq_false_iff_not, Int.not_lt] at accepted
  obtain ⟨attempts, base, growth, cap, jitter, deadline, factor⟩ := accepted
  exact ⟨attempts, base, growth, cap, jitter, deadline, factor⟩

/-- An accepted policy allows one attempt. -/
theorem one_le_maxAttempts (accepted : p.fault? = none) : 1 ≤ p.maxAttempts :=
  (accepted_of_fault? accepted).maxAttempts

/-- Where a delay is chosen, another attempt is left. -/
theorem lt_of_nextDelay {delay : τ}
    (h : p.nextDelay index elapsed rateLimited chance = .ok (some delay)) :
    (index + 1 : Int) < p.maxAttempts := by
  have unspent := isSpent_of_nextDelay h
  rw [isSpent, Bool.or_eq_false_iff, decide_eq_false_iff_not] at unspent
  omega

/-- Chance moves a delay, and never takes it away. -/
theorem nextDelay_some_of_chance {delay : τ} (other : τ)
    (h : p.nextDelay index elapsed rateLimited chance = .ok (some delay)) :
    ∃ delay, p.nextDelay index elapsed rateLimited other = .ok (some delay) := by
  cases drawn : p.nextDelay index elapsed rateLimited other with
  | error cause =>
    rw [nextDelay_eq_error.mpr (nextDelay_eq_error.mp drawn)] at h
    cases h
  | ok delay? =>
    cases delay? with
    | none =>
      rw [nextDelay_eq_none.mpr (nextDelay_eq_none.mp drawn)] at h
      cases h
    | some delay => exact ⟨delay, rfl⟩

/-- Of the attempts that another one follows at a time, some is so late that the growth of its delay
is beyond the scale. -/
def OverflowsAt (p : RetryPolicy τ) (elapsed : τ) : Prop :=
  ∃ index cause, p.isSpent index elapsed = false ∧
    TimeScale.power p.multiplier index = .error cause

/-- Some delay of the policy is beyond the scale. -/
def Overflows (p : RetryPolicy τ) : Prop :=
  ∃ started now : τ, p.OverflowsAt (now - started)

/-- A delay overflows by its growth alone. -/
theorem cappedDelay_eq_error {cause : Overflow} :
    p.cappedDelay index rateLimited = .error cause ↔
      TimeScale.power p.multiplier index = .error cause := by
  unfold cappedDelay
  cases TimeScale.power p.multiplier index with
  | error other => exact Iff.rfl
  | ok growth => exact ⟨nofun, nofun⟩

/-- After one attempt a policy of one attempt has no further one. -/
theorem isSpent_of_maxAttempts (single : p.maxAttempts ≤ 1) : p.isSpent index elapsed = true := by
  refine isSpent_of_retries_le ?_
  unfold retries
  omega

/-- A policy of one attempt has no delay to wait. -/
theorem nextDelay_ne_some (single : p.maxAttempts ≤ 1) {delay : τ} :
    p.nextDelay index elapsed rateLimited chance ≠ .ok (some delay) := by
  intro next
  have unspent := isSpent_of_nextDelay next
  rw [isSpent_of_maxAttempts single] at unspent
  cases unspent

/-- A policy of one attempt computes no delays. -/
theorem not_overflows (single : p.maxAttempts ≤ 1) : ¬ p.Overflows := by
  rintro ⟨started, now, index, cause, unspent, -⟩
  rw [isSpent_of_maxAttempts single] at unspent
  cases unspent

/-- The policy of a single attempt computes no delays. -/
theorem not_overflows_single : ¬ (single : RetryPolicy τ).Overflows :=
  not_overflows (Int.le_refl 1)

end GatewayClient.RetryPolicy
