import GatewayClient.Proofs.Retry.Budget
import Mathlib.Algebra.Order.Ring.Rat
import Mathlib.Tactic.Linarith

/-!
# The schedule of a policy

What a policy is for, on the exact scale: delays that grow with every attempt, are stretched after a
rate limit and stay below a cap. `RetryPolicy.plainDelay` is that delay, before chance and the
deadline have their say.

**Chance and deadline only move it** (`RetryPolicy.Sound.nextDelay_eq`): chance makes it longer or
shorter by a share of it, at most the jitter, and the deadline clips the outcome. All else that a
schedule promises (`RetryPolicy.Backoff`) is read off that formula: where it ends, that it never
shrinks, and between which bounds it lies.
-/

set_option autoImplicit false

namespace GatewayClient

/-! ## The exact scale -/

namespace TimeScale

variable {a b : Rat}

theorem one_eq : (1.0 : Rat) = 1 := by decide +kernel

theorem two_eq : (2.0 : Rat) = 2 := by decide +kernel

/-- The lesser of two exact numbers is their minimum. -/
theorem least_eq_min : least a b = min a b := by
  unfold least
  split
  next below => exact (min_eq_right (of_decide_eq_true below).le).symm
  next above =>
    have above : ¬ b < a := of_decide_eq_false (Bool.eq_false_iff.mpr above)
    exact (min_eq_left (not_lt.mp above)).symm

/-- The greater of two exact numbers is their maximum. -/
theorem greatest_eq_max : greatest a b = max a b := by
  unfold greatest
  split
  next below => exact (max_eq_right (of_decide_eq_true below).le).symm
  next above =>
    have above : ¬ a < b := of_decide_eq_false (Bool.eq_false_iff.mpr above)
    exact (max_eq_left (not_lt.mp above)).symm

end TimeScale

namespace RetryPolicy

open TimeScale

/-! ## The formula of a delay -/

section Formula

variable (p : RetryPolicy Rat) (index : Nat) (rateLimited : Bool)

/-- The delay after the attempt of an index: it grows by a factor with each attempt, and is
stretched by another one after a rate limit. -/
def grownDelay : Rat :=
  p.baseDelay * p.multiplier ^ index * if rateLimited then p.rateLimitFactor else 1

/-- The delay with its cap, before chance and the deadline have their say. -/
def plainDelay : Rat :=
  p.maxDelay.elim (p.grownDelay index rateLimited) (min (p.grownDelay index rateLimited))

/-- By which factor chance moves a delay. -/
def sway (chance : Rat) : Rat := 1 + p.jitter * (2 * chance - 1)

/-- A delay clipped to what is left of the deadline. -/
def clipped (elapsed delay : Rat) : Rat :=
  p.deadline.elim delay fun deadline => min delay (deadline - elapsed)

end Formula

/-- What the checks of a policy say of its fields as numbers. -/
structure Sound (p : RetryPolicy Rat) : Prop where
  baseDelay : 0 ≤ p.baseDelay
  multiplier : 1 ≤ p.multiplier
  maxDelay : ∀ cap, p.maxDelay = some cap → 0 ≤ cap
  jitter : 0 ≤ p.jitter ∧ p.jitter < 1
  rateLimitFactor : 1 ≤ p.rateLimitFactor

variable {p : RetryPolicy Rat} {elapsed chance delay other : Rat} {index later : Nat}
variable {rateLimited : Bool}

/-- A policy that is accepted has sound fields. -/
theorem sound_of_fault? (accepted : p.fault? = none) : p.Sound := by
  obtain ⟨-, base, growth, cap, jitter, -, factor⟩ := accepted_of_fault? accepted
  have least : ∀ {a b : Rat}, TimeScale.lt a b = false → b ≤ a := fun h =>
    not_lt.mp (of_decide_eq_false h)
  exact
    { baseDelay := zero_eq ▸ least base
      multiplier := one_eq ▸ least growth
      maxDelay := fun most capped => zero_eq ▸ least (cap most capped)
      jitter := ⟨zero_eq ▸ of_decide_eq_true jitter.1, one_eq ▸ of_decide_eq_true jitter.2⟩
      rateLimitFactor := one_eq ▸ least factor }

/-- On the exact scale no delay overflows. -/
theorem cappedDelay_eq :
    p.cappedDelay index rateLimited = .ok (p.plainDelay index rateLimited) := by
  have power : TimeScale.power p.multiplier index = .ok (p.multiplier ^ index) := rfl
  have grown : (if rateLimited then p.baseDelay * p.multiplier ^ index * p.rateLimitFactor
      else p.baseDelay * p.multiplier ^ index) = p.grownDelay index rateLimited := by
    unfold grownDelay
    split
    · rfl
    · exact (mul_one _).symm
  rw [cappedDelay, power, plainDelay]
  dsimp only
  rw [grown]
  cases p.maxDelay with
  | none => rfl
  | some cap => exact congrArg Except.ok least_eq_min

/-- A schedule ends by count, or because its deadline is over. -/
theorem isSpent_iff :
    p.isSpent index elapsed = true ↔ p.maxAttempts - 1 ≤ index ∨ p.expired elapsed = true := by
  have passed : ∀ deadline : Rat,
      TimeScale.le (deadline - elapsed) 0.0 = TimeScale.le deadline elapsed := fun deadline => by
    show decide (deadline - elapsed ≤ 0.0) = decide (deadline ≤ elapsed)
    rw [zero_eq, decide_eq_decide, sub_nonpos]
  rw [isSpent, expired, Bool.or_eq_true, decide_eq_true_eq]
  simp only [passed]

/-- A longer delay is no shorter after it was capped. -/
theorem capped_mono (le : delay ≤ other) :
    p.maxDelay.elim delay (min delay) ≤ p.maxDelay.elim other (min other) := by
  cases p.maxDelay with
  | none => exact le
  | some cap => exact min_le_min_right cap le

theorem clipped_mono (le : delay ≤ other) : p.clipped elapsed delay ≤ p.clipped elapsed other := by
  unfold clipped
  cases p.deadline with
  | none => exact le
  | some deadline => exact min_le_min_right _ le

/-- Clipping makes no delay longer. -/
theorem clipped_le : p.clipped elapsed delay ≤ delay := by
  unfold clipped
  cases p.deadline with
  | none => exact le_rfl
  | some deadline => exact min_le_left _ _

/-- While some of the budget is left, what is not negative stays so. -/
theorem clipped_nonneg (unspent : p.isSpent index elapsed = false) (nonneg : 0 ≤ delay) :
    0 ≤ p.clipped elapsed delay := by
  rw [isSpent, Bool.or_eq_false_iff] at unspent
  obtain ⟨-, left⟩ := unspent
  unfold clipped
  cases budget : p.deadline with
  | none => exact nonneg
  | some deadline =>
    rw [budget, Option.any_some] at left
    have left : ¬ deadline - elapsed ≤ 0.0 := of_decide_eq_false left
    rw [zero_eq, not_le] at left
    exact le_min nonneg left.le

/-- A capped delay is no longer than the cap. -/
theorem plainDelay_le {cap : Rat} (capped : p.maxDelay = some cap) :
    p.plainDelay index rateLimited ≤ cap := by
  rw [plainDelay, capped]
  exact min_le_right _ _

/-! ## What the checks of a policy give -/

namespace Sound

variable (sound : p.Sound)
include sound

/-- Chance has a say where the jitter is not zero. -/
theorem isJittered_eq : p.isJittered = !decide (p.jitter = 0) := by
  show decide (0.0 < p.jitter) = _
  rw [zero_eq, ← decide_not, decide_eq_decide]
  exact ⟨ne_of_gt, fun some => lt_of_le_of_ne sound.jitter.1 (Ne.symm some)⟩

/-- A rate limit makes no delay shorter. -/
theorem one_le_stretch : 1 ≤ if rateLimited then p.rateLimitFactor else 1 := by
  split
  · exact sound.rateLimitFactor
  · exact le_rfl

theorem power_nonneg (index : Nat) : 0 ≤ p.baseDelay * p.multiplier ^ index :=
  mul_nonneg sound.baseDelay (pow_nonneg (zero_le_one.trans sound.multiplier) index)

theorem grownDelay_nonneg : 0 ≤ p.grownDelay index rateLimited :=
  mul_nonneg (sound.power_nonneg index) (zero_le_one.trans sound.one_le_stretch)

theorem plainDelay_nonneg : 0 ≤ p.plainDelay index rateLimited := by
  have grown : 0 ≤ p.grownDelay index rateLimited := sound.grownDelay_nonneg
  unfold plainDelay
  cases capped : p.maxDelay with
  | none => exact grown
  | some cap => exact le_min grown (sound.maxDelay cap capped)

/-- A delay is no shorter than the one after an earlier attempt. -/
theorem plainDelay_mono (le : index ≤ later) :
    p.plainDelay index rateLimited ≤ p.plainDelay later rateLimited := by
  refine capped_mono ?_
  have power := mul_le_mul_of_nonneg_left (pow_le_pow_right₀ sound.multiplier le) sound.baseDelay
  exact mul_le_mul_of_nonneg_right power (zero_le_one.trans sound.one_le_stretch)

/-- A delay is no shorter after a rate limit. -/
theorem plainDelay_le_rateLimited : p.plainDelay index false ≤ p.plainDelay index true :=
  capped_mono (mul_le_mul_of_nonneg_left sound.rateLimitFactor (sound.power_nonneg index))

/-- Chance moves a delay by a share of it that is at most the jitter. -/
theorem sway_mem (drawn : 0 ≤ chance ∧ chance < 1) :
    1 - p.jitter ≤ p.sway chance ∧ p.sway chance ≤ 1 + p.jitter := by
  have low : p.jitter * (-1) ≤ p.jitter * (2 * chance - 1) :=
    mul_le_mul_of_nonneg_left (by linarith [drawn.1]) sound.jitter.1
  have high : p.jitter * (2 * chance - 1) ≤ p.jitter * 1 :=
    mul_le_mul_of_nonneg_left (by linarith [drawn.2]) sound.jitter.1
  unfold sway
  constructor <;> linarith

/-- The delay that is chosen: the plain one, moved by chance and then clipped. Where there is no
jitter, chance need not even be a number of `[0, 1)`. -/
theorem nextDelay_eq (unspent : p.isSpent index elapsed = false)
    (drawn : p.jitter = 0 ∨ 0 ≤ chance ∧ chance < 1) :
    p.nextDelay index elapsed rateLimited chance =
      .ok (some (p.clipped elapsed (p.plainDelay index rateLimited * p.sway chance))) := by
  have moved : (if p.isJittered then p.perturb (p.plainDelay index rateLimited) chance
      else p.plainDelay index rateLimited) = p.plainDelay index rateLimited * p.sway chance := by
    rw [sound.isJittered_eq, perturb, one_eq, two_eq]
    by_cases none : p.jitter = 0
    · simp [sway, none]
    · simp [sway, none]
  have sways : 0 ≤ p.sway chance := by
    rcases drawn with none | drawn
    · rw [sway, none, zero_mul, add_zero]
      exact zero_le_one
    · exact (sub_nonneg.mpr sound.jitter.2.le).trans (sound.sway_mem drawn).1
  have nonneg : 0 ≤ p.clipped elapsed (p.plainDelay index rateLimited * p.sway chance) :=
    clipped_nonneg unspent (mul_nonneg sound.plainDelay_nonneg sways)
  have clip : ∀ delay, p.clip elapsed delay = max (p.clipped elapsed delay) 0 := fun delay => by
    rw [RetryPolicy.clip, clipped, greatest_eq_max, zero_eq]
    cases p.deadline with
    | none => rfl
    | some deadline => exact congrArg (max · 0) least_eq_min
  rw [nextDelay, unspent, cappedDelay_eq]
  simp only [Bool.false_eq_true, if_false]
  rw [moved, clip, max_eq_left nonneg]

/-- Without jitter the delay is the plain one, clipped. -/
theorem nextDelay_unjittered (none : p.jitter = 0)
    (next : p.nextDelay index elapsed rateLimited chance = .ok (some delay)) :
    delay = p.clipped elapsed (p.plainDelay index rateLimited) := by
  have unspent : p.isSpent index elapsed = false := isSpent_of_nextDelay next
  rw [sound.nextDelay_eq unspent (.inl none), sway, none, zero_mul, add_zero, mul_one] at next
  cases next
  rfl

end Sound

/-! ## The law of backing off -/

/-- What the schedule of a policy promises at a time. -/
structure Backoff (p : RetryPolicy Rat) (elapsed : Rat) : Prop where
  /-- There is no further attempt exactly where the count is reached or the deadline is over. -/
  ends : ∀ (index : Nat) rateLimited chance,
    p.nextDelay index elapsed rateLimited chance = .ok none ↔
      p.maxAttempts - 1 ≤ index ∨ p.expired elapsed = true
  /-- Everywhere else there is a delay, and it is not negative. -/
  goes_on : ∀ (index : Nat) rateLimited chance,
    ¬ (p.maxAttempts - 1 ≤ index ∨ p.expired elapsed = true) →
      ∃ delay, p.nextDelay index elapsed rateLimited chance = .ok (some delay) ∧ 0 ≤ delay
  /-- Without jitter no delay is shorter than an earlier one. -/
  grows : p.jitter = 0 → ∀ ⦃index later rateLimited chance chance' delay delay'⦄, index ≤ later →
    p.nextDelay index elapsed rateLimited chance = .ok (some delay) →
    p.nextDelay later elapsed rateLimited chance' = .ok (some delay') → delay ≤ delay'
  /-- Without jitter no delay is shorter after a rate limit. -/
  stretches : p.jitter = 0 → ∀ ⦃index chance chance' delay delay'⦄,
    p.nextDelay index elapsed false chance = .ok (some delay) →
    p.nextDelay index elapsed true chance' = .ok (some delay') → delay ≤ delay'
  /-- Without jitter no delay is above the cap. -/
  capped : p.jitter = 0 → ∀ ⦃cap index rateLimited chance delay⦄, p.maxDelay = some cap →
    p.nextDelay index elapsed rateLimited chance = .ok (some delay) → delay ≤ cap
  /-- Chance moves the plain delay by a share that is at most the jitter, and the deadline clips
  what comes out. -/
  within : ∀ ⦃index rateLimited chance delay⦄, 0 ≤ chance → chance < 1 →
    p.nextDelay index elapsed rateLimited chance = .ok (some delay) →
    ∃ moved, (1 - p.jitter) * p.plainDelay index rateLimited ≤ moved ∧
      moved ≤ (1 + p.jitter) * p.plainDelay index rateLimited ∧ delay = p.clipped elapsed moved

/-- **The schedule of every accepted policy backs off**, at every time. -/
theorem backoff_law (accepted : p.fault? = none) (elapsed : Rat) : p.Backoff elapsed := by
  have sound := sound_of_fault? accepted
  refine
    { ends := fun index rateLimited chance => nextDelay_eq_none.trans isSpent_iff
      goes_on := fun index rateLimited chance left => ?_
      grows := fun none index later rateLimited chance chance' delay delay' le next next' => ?_
      stretches := fun none index chance chance' delay delay' next next' => ?_
      capped := fun none cap index rateLimited chance delay most next => ?_
      within := fun index rateLimited chance delay natural low next => ?_ }
  · have unspent : p.isSpent index elapsed = false := Bool.eq_false_iff.mpr (mt isSpent_iff.mp left)
    have chosen : ∃ delay, p.nextDelay index elapsed rateLimited chance = .ok (some delay) := by
      rw [nextDelay, unspent, cappedDelay_eq]
      exact ⟨_, rfl⟩
    exact chosen.imp fun delay next => ⟨next, nextDelay_nonneg next⟩
  · rw [sound.nextDelay_unjittered none next, sound.nextDelay_unjittered none next']
    exact clipped_mono (sound.plainDelay_mono le)
  · rw [sound.nextDelay_unjittered none next, sound.nextDelay_unjittered none next']
    exact clipped_mono sound.plainDelay_le_rateLimited
  · rw [sound.nextDelay_unjittered none next]
    exact clipped_le.trans (plainDelay_le most)
  -- Chance multiplies the plain delay by a factor near one, before the deadline clips it.
  · have unspent := isSpent_of_nextDelay next
    obtain ⟨least, most⟩ := sound.sway_mem ⟨natural, low⟩
    rw [sound.nextDelay_eq unspent (.inr ⟨natural, low⟩)] at next
    cases next
    refine ⟨_, ?_, ?_, rfl⟩
    · rw [mul_comm]
      exact mul_le_mul_of_nonneg_left least sound.plainDelay_nonneg
    · rw [mul_comm (1 + _)]
      exact mul_le_mul_of_nonneg_left most sound.plainDelay_nonneg

/-- A policy with every field in use. -/
def perturbedPolicy : RetryPolicy Rat :=
  { maxAttempts := 4, baseDelay := 1 / 2, multiplier := 2, maxDelay := some 3, jitter := 1 / 2
    deadline := some 10, rateLimitFactor := 4 }

/-- Eight seconds after its start such a policy has a cap, chance and a deadline that all have their
say: the first delay is moved from 2 s down to 3/2 s, the second one from 3 s to more than the 2 s
that are left, and no fourth attempt is followed by another one. -/
theorem backoff_law_perturbed : perturbedPolicy.fault? = none ∧ perturbedPolicy.Backoff 8 ∧
    perturbedPolicy.nextDelay 0 8 true (1 / 4) = .ok (some (3 / 2)) ∧
    perturbedPolicy.nextDelay 1 8 true (3 / 4) = .ok (some 2) ∧
    perturbedPolicy.nextDelay 3 8 true (3 / 4) = .ok none := by
  have accepted : perturbedPolicy.fault? = none := by decide +kernel
  exact ⟨accepted, backoff_law accepted 8, by decide +kernel, by decide +kernel, by decide +kernel⟩

end RetryPolicy
end GatewayClient
