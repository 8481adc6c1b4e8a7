import GatewayClient.Proofs.Double.Arithmetic
import GatewayClient.Proofs.Retry.Delays
import GatewayClient.Time.Seconds

/-!
# Delays as doubles

On the scale of doubles a sum or a product can be infinite or NaN, but a policy with finite fields
and a cap chooses no such delay (`RetryPolicy.Bounded.isWait_nextDelay`): the growth of a delay may
be infinite, and is then capped before chance has its say.

**A server may ask for an infinite wait**, and a deadline is all that stands against it
(`RetryPolicy.honour_infinite_iff`).
-/

set_option autoImplicit false

namespace GatewayClient

open Double

/-- A number of seconds that one can wait: finite, and not negative. -/
structure Double.IsWait (x : Float) : Prop where
  finite : x.isFinite = true
  nonneg : 0.0 ≤ x

namespace Double

variable {a b : Float}

/-- The test of a policy says whether a double is below another. -/
theorem lt_eq_false : TimeScale.lt a b = false ↔ ¬ a < b := decide_eq_false_iff_not

theorem le_eq_false : TimeScale.le a b = false ↔ ¬ a ≤ b := decide_eq_false_iff_not

/-- What the checks of a policy say of a finite field. -/
theorem nonneg_of_not_lt (finite : a.isFinite = true) (h : TimeScale.lt a 0.0 = false) :
    0.0 ≤ a := by
  have natural := lt_eq_false.mp h
  rw [lt_iff finite rfl, val_zero, not_lt] at natural
  exact (nonneg_iff_val finite).mpr natural

/-- A finite field that is not below one is at least one. -/
theorem one_le_of_not_lt (finite : a.isFinite = true) (h : TimeScale.lt a 1.0 = false) :
    1 ≤ val a := by
  have least := lt_eq_false.mp h
  rwa [lt_iff finite rfl, val_one, not_lt] at least

theorem pos_of_not_le (finite : a.isFinite = true) (h : TimeScale.le a 0.0 = false) :
    0 < val a := by
  have positive := le_eq_false.mp h
  rwa [le_iff finite rfl, val_zero, not_le] at positive

/-- The lesser of a number that is not negative and a finite one is finite. -/
theorem least_finite_of_nonneg (nonneg : 0.0 ≤ a) (fb : b.isFinite = true) :
    (TimeScale.least a b).isFinite = true := by
  unfold TimeScale.least
  split
  next => exact fb
  next above => exact finite_of_not_lt nonneg fb (lt_eq_false.mp (Bool.not_eq_true _ ▸ above))

/-! ## The lesser and the greater -/

/-- It can be waited if the finite one can. -/
theorem IsWait.least (nonneg : 0.0 ≤ a) (hb : IsWait b) : IsWait (TimeScale.least a b) := by
  refine ⟨least_finite_of_nonneg nonneg hb.finite, ?_⟩
  unfold TimeScale.least
  split
  next => exact hb.nonneg
  next => exact nonneg

/-- The lesser of two finite numbers is finite, and so is the greater one. -/
theorem least_finite (fa : a.isFinite = true) (fb : b.isFinite = true) :
    (TimeScale.least a b).isFinite = true := by
  unfold TimeScale.least
  split <;> assumption

theorem greatest_finite (fa : a.isFinite = true) (fb : b.isFinite = true) :
    (TimeScale.greatest a b).isFinite = true := by
  unfold TimeScale.greatest
  split <;> assumption

theorem val_greatest (fa : a.isFinite = true) (fb : b.isFinite = true) :
    val (TimeScale.greatest a b) = max (val a) (val b) := by
  unfold TimeScale.greatest
  split
  next below => exact (max_eq_right ((lt_iff fa fb).mp (of_decide_eq_true below)).le).symm
  next above =>
    have above : ¬ a < b := lt_eq_false.mp (Bool.not_eq_true _ ▸ above)
    exact (max_eq_left (not_lt.mp (mt (lt_iff fa fb).mpr above))).symm

/-- The greater of a number that one can wait and a finite one is such a number. -/
theorem IsWait.greatest (ha : IsWait a) (fb : b.isFinite = true) :
    IsWait (TimeScale.greatest a b) := by
  have finite := greatest_finite ha.finite fb
  refine ⟨finite, (nonneg_iff_val finite).mpr ?_⟩
  rw [val_greatest ha.finite fb]
  exact le_max_of_le_left ((nonneg_iff_val ha.finite).mp ha.nonneg)

/-- What is lifted to zero can be waited. -/
theorem isWait_greatest (fa : a.isFinite = true) : IsWait (TimeScale.greatest a 0.0) := by
  have finite := greatest_finite fa (b := 0.0) rfl
  refine ⟨finite, (nonneg_iff_val finite).mpr ?_⟩
  rw [val_greatest fa rfl, val_zero]
  exact le_max_right _ _

/-- The lesser of two numbers is not above the finite one. -/
theorem val_least_le (nonneg : 0.0 ≤ a) (hb : IsWait b) : val (TimeScale.least a b) ≤ val b := by
  have waits := hb.least nonneg
  unfold TimeScale.least at waits ⊢
  split
  next => exact le_rfl
  next above =>
    rw [if_neg above] at waits
    have above : ¬ b < a := lt_eq_false.mp (Bool.not_eq_true _ ▸ above)
    exact not_lt.mp (mt (lt_iff hb.finite waits.finite).mpr above)

theorem beq_infinity (infinite : parts a = .infinity .positive) :
    (a == Float.ofBits 0x7FF0000000000000) = true := by
  show Float.Model.UnpackedFloat.beq (parts a) (parts (Float.ofBits 0x7FF0000000000000)) = true
  have infinity : parts (Float.ofBits 0x7FF0000000000000) = .infinity .positive := rfl
  rw [infinite, infinity]
  rfl

/-- A number that is at least one is the positive infinity, or finite. -/
theorem of_one_le (least : 1.0 ≤ a) :
    parts a = .infinity .positive ∨ a.isFinite = true ∧ 1 ≤ val a := by
  by_cases finite : a.isFinite = true
  · exact .inr ⟨finite, val_one ▸ (le_iff rfl finite).mp least⟩
  · left
    have one : parts 1.0 = .finite .positive (2 ^ 52) (-52) (by decide) := rfl
    change ¬ (parts a).isFinite = true at finite
    rw [le_iff_compare, one] at least
    generalize parts a = u at *
    cases u with
    | notANumber => cases least
    | zero | finite => exact absurd rfl finite
    | infinity s =>
      cases s with
      | positive => rfl
      | negative => cases least

/-- A number of `[0, 1)`, as random sources draw it. -/
theorem below_one {x : Float} (nonneg : 0.0 ≤ x) (low : x < 1.0) : Below x 1 := by
  have finite : x.isFinite = true := by
    by_contra infinite
    have infinite := parts_of_infinite nonneg (Bool.not_eq_true _ ▸ infinite)
    exact (lt_of_infinite rfl infinite).2.2 low
  refine ⟨finite, ?_⟩
  rw [abs_of_nonneg ((nonneg_iff_val finite).mp nonneg), ← val_one]
  exact ((lt_iff finite rfl).mp low).le

theorem val_two : val 2.0 = 2 := by
  show scaled (2 ^ 52) (-51) = 2
  norm_num [scaled]

theorem val_billion : val 1e9 = 1000000000 := by
  show scaled 8388608000000000 (-23) = 1000000000
  norm_num [scaled]

/-- A whole number of 53 binary digits is a magnitude that a double can have. -/
theorem isBound_of_eq {q : ℚ} (n : Nat) (same : q = n ∧ n < 2 ^ 53) : IsBound q :=
  same.1 ▸ isBound_natCast same.2

end Double

/-! ## Powers -/

namespace Seconds

/-- The powers of a finite number that is at least one are finite, and at least one. -/
theorem one_le_power {x growth : Float} {n : Nat} (finite : x.isFinite = true) (least : 1 ≤ val x)
    (h : power x n = .ok growth) : growth.isFinite = true ∧ 1 ≤ val growth := by
  have one : (1.0 : Float).isFinite = true ∧ 1 ≤ val 1.0 := ⟨rfl, val_one.ge⟩
  unfold power at h
  split at h
  next => cases h; exact one
  next =>
    split at h
    next => cases h; exact ⟨finite, least⟩
    next =>
      split at h
      next => cases h
      next =>
        split at h
        next => cases h; exact one
        next =>
          split at h
          next =>
            split at h
            next => cases h
            next =>
              dsimp only at h
              split at h
              next => cases h
              next bounded =>
                split at h
                next above =>
                  cases h
                  rcases of_one_le above with infinite | finite
                  · exact absurd (beq_infinity infinite) bounded
                  · exact finite
                next => cases h; exact one
          next => cases h; exact ⟨finite, least⟩

end Seconds

/-! ## Policies with finite fields -/

namespace RetryPolicy

/-- All fields of a policy are finite numbers. -/
structure IsFinite (p : RetryPolicy Float) : Prop where
  baseDelay : p.baseDelay.isFinite = true
  multiplier : p.multiplier.isFinite = true
  maxDelay : ∀ cap, p.maxDelay = some cap → cap.isFinite = true
  jitter : p.jitter.isFinite = true
  deadline : ∀ deadline, p.deadline = some deadline → deadline.isFinite = true
  rateLimitFactor : p.rateLimitFactor.isFinite = true

/-- An accepted policy with finite fields, whose delays are capped by a billion seconds at most. -/
structure Bounded (p : RetryPolicy Float) (cap : Float) : Prop where
  accepted : p.Accepted
  finite : p.IsFinite
  capped : p.maxDelay = some cap
  low : cap ≤ 1e9

variable {p : RetryPolicy Float} {cap delay elapsed chance : Float} {index : Nat}
variable {rateLimited : Bool}

namespace Bounded

/-- The cap of a policy can be waited. -/
theorem isWait_cap (h : p.Bounded cap) : IsWait cap :=
  have finite := h.finite.maxDelay cap h.capped
  ⟨finite, nonneg_of_not_lt finite (h.accepted.maxDelay cap h.capped)⟩

/-- What is capped is a delay that has grown, maybe beyond all finite numbers, but is no NaN. -/
theorem exists_grown (h : p.Bounded cap)
    (capped : p.cappedDelay index rateLimited = .ok delay) :
    ∃ grown, 0.0 ≤ grown ∧ delay = TimeScale.least grown cap := by
  unfold RetryPolicy.cappedDelay at capped
  split at capped
  next => cases capped
  next growth power =>
    have base := nonneg_of_not_lt h.finite.baseDelay h.accepted.baseDelay
    have multiplier := one_le_of_not_lt h.finite.multiplier h.accepted.multiplier
    have factor := one_le_of_not_lt h.finite.rateLimitFactor h.accepted.rateLimitFactor
    obtain ⟨finite, least⟩ := Seconds.one_le_power h.finite.multiplier multiplier power
    have grown : 0.0 ≤ p.baseDelay * growth :=
      mul_nonneg_of_pos base finite (one_pos.trans_le least)
    cases capped
    refine ⟨_, ?_, by rw [h.capped]⟩
    split
    next => exact mul_nonneg_of_pos grown h.finite.rateLimitFactor (one_pos.trans_le factor)
    next => exact grown

/-- However much a delay grows, capped it is a number of seconds below a billion. -/
theorem cappedDelay (h : p.Bounded cap)
    (capped : p.cappedDelay index rateLimited = .ok delay) :
    IsWait delay ∧ Below delay 1000000000 := by
  obtain ⟨grown, natural, rfl⟩ := h.exists_grown capped
  have waits := h.isWait_cap
  have least := waits.least natural
  refine ⟨least, least.finite, ?_⟩
  rw [abs_of_nonneg ((nonneg_iff_val least.finite).mp least.nonneg), ← val_billion]
  exact (val_least_le natural waits).trans ((le_iff waits.finite rfl).mp h.low)

/-- Chance moves a delay by no more than the delay itself, up to what rounding does to it. -/
theorem perturb_finite (h : p.Bounded cap) (below : Below delay 1000000000)
    (drawn : 0.0 ≤ chance ∧ chance < 1.0) : (p.perturb delay chance).isFinite = true := by
  have jitter : Below p.jitter 1 :=
    below_one (of_decide_eq_true h.accepted.jitter.1) (of_decide_eq_true h.accepted.jitter.2)
  have one : Below 1.0 1 := ⟨rfl, by rw [val_one, abs_one]⟩
  have two : Below 2.0 2 := ⟨rfl, by rw [val_two, abs_two]⟩
  have twice : Below (2.0 * chance) (2 * 1) :=
    two.mul (below_one drawn.1 drawn.2) (isBound_of_eq 2 (by norm_num))
  have centred : Below (2.0 * chance - 1.0) (2 * 1 + 1) :=
    twice.sub one (isBound_of_eq 3 (by norm_num))
  have share : Below (p.jitter * (2.0 * chance - 1.0)) (1 * (2 * 1 + 1)) :=
    jitter.mul centred (isBound_of_eq 3 (by norm_num))
  have factor : Below (1.0 + p.jitter * (2.0 * chance - 1.0)) (1 + 1 * (2 * 1 + 1)) :=
    one.add share (isBound_of_eq 4 (by norm_num))
  exact (below.mul factor (isBound_of_eq 4000000000 (by norm_num))).finite

/-- What is left of a deadline after some time is finite, as long as something is left. -/
theorem left_finite (h : p.Bounded cap) {deadline : Float} (budget : p.deadline = some deadline)
    (passed : 0.0 ≤ elapsed) (unspent : p.isSpent index elapsed = false) :
    IsWait (deadline - elapsed) := by
  have finite := h.finite.deadline deadline budget
  have later := pos_of_not_le finite (h.accepted.deadline deadline budget)
  rw [isSpent, budget, Option.any_some, Bool.or_eq_false_iff] at unspent
  obtain ⟨-, left⟩ := unspent
  have waits := sub_finite_of_pos finite ((nonneg_iff_val finite).mpr later.le) passed
    (le_eq_false.mp left)
  exact ⟨waits, (nonneg_iff_val waits).mpr (pos_of_not_le waits left).le⟩

/-- The delays of the policy are finite and not negative. -/
theorem isWait_nextDelay (h : p.Bounded cap)
    (passed : ∀ deadline, p.deadline = some deadline → 0.0 ≤ elapsed)
    (drawn : p.isJittered = true → 0.0 ≤ chance ∧ chance < 1.0)
    (next : p.nextDelay index elapsed rateLimited chance = .ok (some delay)) : IsWait delay := by
  unfold nextDelay at next
  split at next
  next => cases next
  next unspent =>
    rw [Bool.not_eq_true] at unspent
    split at next
    next => cases next
    next capped chosen =>
      obtain ⟨waits, below⟩ := h.cappedDelay chosen
      have moved : (if p.isJittered then p.perturb capped chance else capped).isFinite = true := by
        split
        next jittered => exact h.perturb_finite below (drawn jittered)
        next => exact waits.finite
      have clipped : ∀ moved : Float, moved.isFinite = true → IsWait (p.clip elapsed moved) := by
        intro moved finite
        unfold clip
        cases budget : p.deadline with
        | none => exact isWait_greatest finite
        | some deadline =>
          have left := h.left_finite budget (passed deadline budget) unspent
          exact isWait_greatest (least_finite finite left.finite)
      cases next
      exact clipped _ moved

end Bounded

/-- The wait for a server is no longer finite exactly if the server asks for an infinite one and
there is no deadline. -/
theorem honour_infinite_iff (waits : IsWait delay)
    (left : ∀ deadline, p.deadline = some deadline → (deadline - elapsed).isFinite = true)
    (asked : Option Float) (natural : ∀ seconds, asked = some seconds → 0.0 ≤ seconds) :
    0.0 ≤ p.honour delay elapsed asked ∧
      ((p.honour delay elapsed asked).isFinite = false ↔
        p.deadline = none ∧ ∃ seconds, asked = some seconds ∧ seconds.isFinite = false) := by
  cases asked with
  | none => exact ⟨waits.nonneg, by simp [honour, waits.finite]⟩
  | some seconds =>
    have nonneg := natural seconds rfl
    unfold honour
    dsimp only
    split
    next shorter =>
      have shorter : seconds ≤ delay := of_decide_eq_true shorter
      have finite : seconds.isFinite = true := finite_of_le nonneg waits.finite shorter
      exact ⟨waits.nonneg, by simp [waits.finite, finite]⟩
    next =>
      cases budget : p.deadline with
      | none => exact ⟨nonneg, by simp⟩
      | some deadline =>
        have longer := waits.greatest (least_finite_of_nonneg nonneg (left deadline budget))
        exact ⟨longer.nonneg, by simp [longer.finite]⟩

end RetryPolicy
end GatewayClient
