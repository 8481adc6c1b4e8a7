import GatewayClient.Proofs.Double.NotANumber
import GatewayClient.Proofs.Double.Whole
import GatewayClient.Proofs.Retry.Finite

/-!
# Delays that are no numbers

The fields of a policy are refused where they are below a bound. NaN is below nothing, so it is
accepted, and so is infinity; the jitter alone is asked to be within its bounds.

**What an accepted policy does with them** (`RetryPolicy.undefined_law`). A delay is NaN exactly if
the base delay or one of its factors is, or if the base delay is zero and one of its factors
infinite: neither the cap nor the deadline nor the last test for zero takes NaN away, and chance
never brings it in. Every other delay is not negative, and within what is left of the deadline, as
far as that compares.
-/

set_option autoImplicit false

namespace GatewayClient

open Double Float.Model

/-! ## Factors that leave no number -/

namespace Double

variable {x y : Float}

/-- What passes a test that refuses what is below zero. -/
theorem unsigned_of_not_lt (passed : TimeScale.lt x 0.0 = false) : Unsigned (parts x) := by
  by_cases undefined : x.isNaN = true
  · exact .inl undefined
  · have number : x.isNaN = false := Bool.eq_false_iff.mpr undefined
    exact .inr (nonneg_iff.mp (le_of_not_lt number rfl (lt_eq_false.mp passed)))

/-- What passes a test that refuses what is below one. -/
theorem stretching_of_not_lt (passed : TimeScale.lt x 1.0 = false) : Stretching (parts x) := by
  by_cases undefined : x.isNaN = true
  · exact .inl undefined
  · have number : x.isNaN = false := Bool.eq_false_iff.mpr undefined
    have least := le_of_not_lt number rfl (lt_eq_false.mp passed)
    exact .inr ((of_one_le least).imp_right And.right)

/-- The lesser of two numbers that are not below zero is not below zero. -/
theorem Unsigned.least (hx : Unsigned (parts x)) (hy : Unsigned (parts y)) :
    Unsigned (parts (TimeScale.least x y)) := by
  unfold TimeScale.least
  split <;> assumption

/-- A finite double is neither NaN nor an infinity. -/
theorem number_of_finite (finite : x.isFinite = true) : x.isNaN = false ∧ x.isInf = false := by
  change (parts x).isFinite = true at finite
  change (parts x).isNaN = false ∧ (parts x).isInf = false
  generalize parts x = u at *
  cases u with
  | notANumber | infinity => cases finite
  | zero | finite => exact ⟨rfl, rfl⟩

/-- A factor that leaves no number of another one: NaN, or an infinity where that one is zero. -/
def spoils (x factor : Float) : Bool := factor.isNaN || (factor.isInf && x == 0.0)

/-- A finite factor leaves a number. -/
theorem spoils_of_finite (finite : y.isFinite = true) : spoils x y = false := by
  obtain ⟨number, bounded⟩ := number_of_finite finite
  rw [spoils, number, bounded]
  rfl

/-- A product with a factor that is not below one is NaN where a factor is, or where the second one
spoils the first. -/
theorem isNaN_mul (hx : Unsigned (parts x)) (hy : Stretching (parts y)) :
    Unsigned (parts (x * y)) ∧ (x * y).isNaN = (x.isNaN || spoils x y) ∧
      ((x * y).isNaN = false → ∀ factor, spoils (x * y) factor = spoils x factor) := by
  obtain ⟨unsigned, undefined, zero⟩ :=
    stretched_mul ⟨canonical_parts x, inRange_parts x⟩ (canonical_parts y) hx hy
  refine ⟨unsigned, ?_, fun number factor => ?_⟩
  · rw [spoils, ← Bool.or_assoc]
    exact undefined
  · have same : (x * y == 0.0) = (x == 0.0) := zero number
    rw [spoils, spoils, same]

/-- Twice a number of `[0, 1)` is a number of `[0, 2]`. -/
theorem twice_mem {chance : Float} (natural : 0.0 ≤ chance) (low : chance < 1.0) :
    (2.0 * chance).isFinite = true ∧ 0 ≤ val (2.0 * chance) ∧ val (2.0 * chance) ≤ 2 := by
  have chanced := below_one natural low
  have two : Below 2.0 2 := ⟨rfl, by rw [val_two, abs_two]⟩
  have twice := two.mul chanced (isBound_of_eq 2 (by norm_num))
  refine ⟨twice.finite, ?_, ?_⟩
  · rcases ((nonneg_iff_val chanced.finite).mp natural).eq_or_lt with none | some
    · have nothing : Below chance 0 := ⟨chanced.finite, by rw [← none, abs_zero]⟩
      have product := two.mul nothing (isBound_of_eq 0 (by norm_num))
      rw [mul_zero] at product
      exact (abs_nonpos_iff.mp product.le).ge
    · have positive : (0.0 : Float) ≤ 2.0 := (nonneg_iff_val rfl).mpr (by rw [val_two]; norm_num)
      exact (nonneg_iff_val twice.finite).mp (mul_nonneg_of_pos positive chanced.finite some)
  · have most := (abs_le.mp twice.le).2
    linarith

/-- The factor by which chance moves a delay is a positive number: even where rounding has its say,
it takes away less than all. -/
theorem sway_positive {jitter chance : Float} (share : 0.0 ≤ jitter ∧ jitter < 1.0)
    (drawn : 0.0 ≤ chance ∧ chance < 1.0) :
    (1.0 + jitter * (2.0 * chance - 1.0)).isFinite = true ∧
      0 < val (1.0 + jitter * (2.0 * chance - 1.0)) := by
  have jittered := below_one share.1 share.2
  have low : |val jitter| < 1 := by
    rw [abs_of_nonneg ((nonneg_iff_val jittered.finite).mp share.1), ← val_one]
    exact (lt_iff jittered.finite rfl).mp share.2
  obtain ⟨finite, least, most⟩ := twice_mem drawn.1 drawn.2
  have centred : Below (2.0 * chance - 1.0) 1 := by
    refine below_sub finite rfl (isBound_of_eq 1 (by norm_num)) ?_
    rw [val_one, abs_le]
    constructor <;> linarith
  -- What chance adds is bounded by the jitter itself, which is a double below one.
  have bound : IsBound (|val jitter| * 1) := by
    rw [mul_one]
    exact isBound_val jitter
  have moved : Below (jitter * (2.0 * chance - 1.0)) (|val jitter| * 1) :=
    (Below.mk jittered.finite le_rfl).mul centred bound
  have small : |val (jitter * (2.0 * chance - 1.0))| < 1 := by linarith [moved.le]
  generalize jitter * (2.0 * chance - 1.0) = share at *
  have one : Below 1.0 1 := ⟨rfl, by rw [val_one, abs_one]⟩
  have total := one.add (Below.mk moved.finite small.le) (isBound_of_eq 2 (by norm_num))
  have positive : 0 < value (parts 1.0) + value (parts share) := by
    have above := (abs_lt.mp small).1
    change 0 < val 1.0 + val share
    rw [val_one]
    linarith
  have sum := positive_add (isDouble_parts rfl) (isDouble_parts moved.finite) positive
  exact ⟨total.finite, Positive.value_pos sum total.finite⟩

end Double

/-! ## Powers -/

namespace Seconds

/-- What is not finite is not one. -/
theorem beq_one_of_special {x : Float} (special : x.isFinite = false) : ¬ (x == 1.0) = true := by
  intro equal
  change (parts x).isFinite = false at special
  change (parts x).beq (parts 1.0) = true at equal
  have one : parts 1.0 = .finite .positive (2 ^ 52) (-52) (by decide) := rfl
  rw [one] at equal
  generalize parts x = u at *
  cases u with
  | zero | finite => cases special
  | notANumber => cases equal
  | infinity s => cases s <;> cases equal

/-- A base that is no finite number is its own power, but for the zeroth one. -/
theorem power_of_special {x growth : Float} {n : Nat} (special : x.isFinite = false)
    (h : power x n = .ok growth) : growth = if n = 0 then 1.0 else x := by
  unfold power at h
  by_cases zeroth : n = 0
  · simp only [zeroth, beq_self_eq_true, if_true] at h
    cases h
    rw [if_pos zeroth]
  · have unequal := beq_one_of_special special
    rw [if_neg zeroth]
    simp only [beq_iff_eq, zeroth, if_false] at h
    split at h
    next => cases h; rfl
    next =>
      split at h
      next => cases h
      next =>
        split at h
        next taken =>
          have finite : (parts x).isFinite = true := by
            rw [parts_eq, taken]
            exact isFinite_ofParts ..
          exact absurd (special.symm.trans finite) Bool.false_ne_true
        next => cases h; rfl

/-- A power of a base that is not below one is not below one, and it spoils what its base does, but
for the zeroth one. -/
theorem stretching_power {x growth : Float} {n : Nat} (stretching : Stretching (parts x))
    (h : power x n = .ok growth) :
    Stretching (parts growth) ∧
      ∀ base, spoils base growth = if n = 0 then false else spoils base x := by
  by_cases finite : x.isFinite = true
  · have least : 1 ≤ val x := by
      rcases stretching with undefined | infinite | least
      · exact absurd ((number_of_finite finite).1.symm.trans undefined) Bool.false_ne_true
      · have finite : (parts x).isFinite = true := finite
        rw [infinite] at finite
        cases finite
      · exact least
    obtain ⟨finite', least'⟩ := one_le_power finite least h
    refine ⟨.inr (.inr least'), fun base => ?_⟩
    rw [spoils_of_finite finite, spoils_of_finite finite', ite_self]
  · rw [power_of_special (Bool.eq_false_iff.mpr finite) h]
    split
    · exact ⟨.inr (.inr val_one.ge), fun base => spoils_of_finite rfl⟩
    · exact ⟨stretching, fun base => rfl⟩

end Seconds

namespace RetryPolicy

/-! ## Delays that are no numbers -/

section Formula

variable (p : RetryPolicy Float) (index : Nat) (rateLimited : Bool)

/-- What the base delay is multiplied by after the attempt of an index. The zeroth power of the
multiplier is one, whatever the multiplier. -/
def factors : List Float :=
  (if index = 0 then [] else [p.multiplier]) ++ if rateLimited then [p.rateLimitFactor] else []

/-- No number comes out for the delay after the attempt of an index: one of those it is computed
from is NaN, or nothing is multiplied by an infinity. -/
def isUndefined : Bool :=
  p.baseDelay.isNaN || (p.factors index rateLimited).any (spoils p.baseDelay)

end Formula

variable {p : RetryPolicy Float} {delay elapsed chance : Float} {index : Nat} {rateLimited : Bool}

/-- The delay before chance and the deadline is NaN where it is undefined, and else not negative. -/
theorem unsigned_cappedDelay (accepted : p.Accepted)
    (capped : p.cappedDelay index rateLimited = .ok delay) :
    Unsigned (parts delay) ∧ delay.isNaN = p.isUndefined index rateLimited := by
  unfold cappedDelay at capped
  split at capped
  next => cases capped
  next growth power =>
    have base := unsigned_of_not_lt accepted.baseDelay
    have factor := stretching_of_not_lt accepted.rateLimitFactor
    obtain ⟨growing, spoiling⟩ :=
      Seconds.stretching_power (stretching_of_not_lt accepted.multiplier) power
    obtain ⟨grown, undefined, kept⟩ := isNaN_mul base growing
    obtain ⟨stretched, undefined', -⟩ := isNaN_mul grown factor
    have delayed : Unsigned (parts (if rateLimited then p.baseDelay * growth * p.rateLimitFactor
          else p.baseDelay * growth)) ∧
        (if rateLimited then p.baseDelay * growth * p.rateLimitFactor
          else p.baseDelay * growth).isNaN = p.isUndefined index rateLimited := by
      have grows : p.isUndefined index false = (p.baseDelay * growth).isNaN := by
        rw [undefined, spoiling, isUndefined, factors]
        split <;> simp
      cases rateLimited with
      | false => exact ⟨grown, grows.symm⟩
      | true =>
        have further : p.isUndefined index true =
            (p.isUndefined index false || spoils p.baseDelay p.rateLimitFactor) := by
          simp [isUndefined, factors, Bool.or_assoc]
        refine ⟨stretched, ?_⟩
        rw [further, grows]
        refine undefined'.trans ?_
        by_cases spoiled : (p.baseDelay * growth).isNaN = true
        · rw [spoiled, Bool.true_or, Bool.true_or]
        · rw [kept (Bool.eq_false_iff.mpr spoiled)]
    cases capped
    cases most : p.maxDelay with
    | none => exact delayed
    | some cap =>
      exact ⟨delayed.1.least (unsigned_of_not_lt (accepted.maxDelay cap most)),
        isNaN_least.trans delayed.2⟩

/-- Clipping takes no NaN away and brings none in. It leaves nothing negative, and nothing above
what is left of the deadline. -/
theorem clip_spec (unspent : p.isSpent index elapsed = false) (moved : Float) :
    (p.clip elapsed moved).isNaN = moved.isNaN ∧
      (0.0 ≤ p.clip elapsed moved ↔ moved.isNaN = false) ∧
      ∀ deadline, p.deadline = some deadline → ¬ deadline - elapsed < p.clip elapsed moved := by
  rw [isSpent, Bool.or_eq_false_iff] at unspent
  obtain ⟨-, left⟩ := unspent
  unfold clip
  cases budget : p.deadline with
  | none =>
    refine ⟨isNaN_greatest, zero_le_greatest_iff, fun deadline none => ?_⟩
    cases none
  | some deadline =>
    rw [budget, Option.any_some, le_eq_false] at left
    refine ⟨isNaN_greatest.trans isNaN_least, ?_, ?_⟩
    · rw [← isNaN_least (x := moved) (y := deadline - elapsed)]
      exact zero_le_greatest_iff
    · intro deadline same
      cases same
      exact not_lt_greatest not_lt_least (mt le_of_lt left)

/-- **The delays of an accepted policy are NaN exactly where they are undefined.** All others are
not negative and, unless the deadline itself is NaN, within what is left of it. -/
theorem undefined_law (accepted : p.fault? = none) (passed : elapsed.isFinite = true)
    (natural : 0.0 ≤ chance) (low : chance < 1.0)
    (next : p.nextDelay index elapsed rateLimited chance = .ok (some delay)) :
    delay.isNaN = p.isUndefined index rateLimited ∧
      (0.0 ≤ delay ↔ p.isUndefined index rateLimited = false) ∧
      ∀ deadline, p.deadline = some deadline → ¬ deadline - elapsed < delay ∧
        (delay ≤ deadline - elapsed ↔
          p.isUndefined index rateLimited = false ∧ deadline.isNaN = false) := by
  have accepted := accepted_of_fault? accepted
  have unspent := isSpent_of_nextDelay next
  unfold nextDelay at next
  rw [unspent] at next
  simp only [Bool.false_eq_true, if_false] at next
  split at next
  next => cases next
  next capped chosen =>
    obtain ⟨unsigned, undefined⟩ := unsigned_cappedDelay accepted chosen
    have same : (if p.isJittered then p.perturb capped chance else capped).isNaN =
        p.isUndefined index rateLimited := by
      rw [← undefined]
      split
      · have share := accepted.jitter
        obtain ⟨finite, positive⟩ := sway_positive
          ⟨of_decide_eq_true share.1, of_decide_eq_true share.2⟩ ⟨natural, low⟩
        exact (unsigned_mul unsigned finite positive).2
      · rfl
    generalize (if p.isJittered then p.perturb capped chance else capped) = moved at next same
    cases next
    obtain ⟨number, positive, within⟩ := clip_spec unspent moved
    rw [same] at number positive
    refine ⟨number, positive, fun deadline budget => ⟨within deadline budget, ?_⟩⟩
    constructor
    · intro le
      obtain ⟨defined, left⟩ := isNaN_of_le le
      exact ⟨number.symm.trans defined, (isNaN_sub passed).symm.trans left⟩
    · rintro ⟨defined, real⟩
      exact le_of_not_lt ((isNaN_sub passed).trans real) (number.trans defined)
        (within deadline budget)

/-! ## Policies that are accepted -/

section Accepted

def notANumber : Float := Float.ofBits 0x7FF8000000000000

/-- A multiplier that is no number is not below one. -/
def aimlessPolicy : RetryPolicy Float :=
  { baseDelay := 20.0, multiplier := notANumber, jitter := 0.5, deadline := some 10.0 }

/-- The first delay of such a policy is clipped to the 8 s that are left; the second one is no
number. -/
theorem undefined_law_aimless : aimlessPolicy.fault? = none ∧
    (∃ delay, aimlessPolicy.nextDelay 0 2.0 false 0.75 = .ok (some delay) ∧ 0.0 ≤ delay ∧
      delay ≤ 10.0 - 2.0) ∧
    ∃ delay, aimlessPolicy.nextDelay 1 2.0 false 0.75 = .ok (some delay) ∧ delay.isNaN = true := by
  have accepted : aimlessPolicy.fault? = none := rfl
  refine ⟨accepted, ?_, ?_⟩
  · obtain ⟨delay, next⟩ :
        ∃ delay, aimlessPolicy.nextDelay 0 2.0 false 0.75 = .ok (some delay) := ⟨_, rfl⟩
    obtain ⟨-, natural, within⟩ := undefined_law accepted rfl (by decide +kernel)
      (by decide +kernel) next
    exact ⟨delay, next, natural.mpr (by decide +kernel),
      (within 10.0 rfl).2.mpr ⟨by decide +kernel, rfl⟩⟩
  · obtain ⟨delay, next⟩ :
        ∃ delay, aimlessPolicy.nextDelay 1 2.0 false 0.75 = .ok (some delay) := ⟨_, rfl⟩
    obtain ⟨undefined, -⟩ := undefined_law accepted rfl (by decide +kernel)
      (by decide +kernel) next
    exact ⟨delay, next, undefined.trans (by decide +kernel)⟩

/-- A base delay that is no number is not below zero. -/
def bottomlessPolicy : RetryPolicy Float := { baseDelay := notANumber }

/-- A policy is accepted, and yet chooses a delay that is not at least zero. -/
theorem undefined_delay : bottomlessPolicy.fault? = none ∧
    ∃ delay, bottomlessPolicy.nextDelay 0 0.0 false 0.5 = .ok (some delay) ∧ ¬ 0.0 ≤ delay :=
  ⟨rfl, _, rfl, by decide +kernel⟩

end Accepted

end RetryPolicy
end GatewayClient
