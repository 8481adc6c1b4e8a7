import Mathlib

/-!
# Rounding to doubles

A finite double is a sign and `mantissa * 2 ^ exponent`. What the exact result of an operation is
rounded to has a form of its own, and no rounding passes a double: what is bounded by a double
before is bounded by it afterwards, from above (`Rounds.le`) as from below (`Rounds.ge`).
-/

set_option autoImplicit false

namespace GatewayClient.Double

open Float.Model Float.Model.UnpackedFloat

/-- The value of a mantissa at an exponent. -/
def scaled (m : Nat) (e : Int) : ℚ := m * 2 ^ e

/-! ## Mantissas at exponents -/

section Scaled

variable {m n : Nat} {e t : Int}

theorem scaled_nonneg : 0 ≤ scaled m e := by unfold scaled; positivity

theorem scaled_zero : scaled 0 e = 0 := by simp [scaled]

/-- At one exponent, numbers are ordered as their mantissas are. -/
theorem scaled_le_scaled : scaled m e ≤ scaled n e ↔ m ≤ n := by
  rw [scaled, scaled, mul_le_mul_iff_left₀ (by positivity), Nat.cast_le]

theorem scaled_lt_scaled : scaled m e < scaled n e ↔ m < n := by
  rw [scaled, scaled, mul_lt_mul_iff_left₀ (by positivity), Nat.cast_lt]

theorem scaled_pos (positive : 0 < m) : 0 < scaled m e := by
  unfold scaled
  positivity

/-- The last digits of a mantissa go over to the exponent. -/
theorem scaled_shift (m : Nat) {k : Nat} (le : e + k = t) : scaled (m * 2 ^ k) e = scaled m t := by
  subst le
  rw [scaled, scaled, zpow_add₀ two_ne_zero, zpow_natCast]
  push_cast
  ring

/-- A power of two as a mantissa goes over to the exponent. -/
theorem scaled_pow (k : Nat) (e : Int) : scaled (2 ^ k) e = 2 ^ (k + e) := by
  rw [scaled, zpow_add₀ two_ne_zero, zpow_natCast]
  push_cast
  rfl

end Scaled

/-! ## The form of doubles -/

/-- A number and its sign, where zero has no mantissa. -/
def ofParts (s : Sign) (m : Nat) (e : Int) : UnpackedFloat :=
  if h : m = 0 then .zero s else .finite s m e (Nat.pos_of_ne_zero h)

/-- The magnitude of a number; those that are not finite have none to speak of. -/
def magnitude : UnpackedFloat → ℚ
  | .finite _ m e _ => scaled m e
  | _ => 0

/-- The form of doubles: 53 binary digits at most, and no fewer unless the exponent is the least
one. -/
def Canonical : UnpackedFloat → Prop
  | .finite _ m e _ => m < 2 ^ 53 ∧ -1074 ≤ e ∧ (2 ^ 52 ≤ m ∨ e = -1074)
  | _ => True

theorem magnitude_ofParts (s : Sign) (m : Nat) (e : Int) :
    magnitude (ofParts s m e) = scaled m e := by
  unfold ofParts
  split
  next none => rw [none, scaled_zero]; rfl
  next => rfl

/-- A mantissa of 53 digits, or a shorter one at the least exponent, has the form of doubles. -/
theorem canonical_ofParts {s : Sign} {m : Nat} {e : Int} (few : m < 2 ^ 53) (least : -1074 ≤ e)
    (full : 2 ^ 52 ≤ m ∨ e = -1074) : Canonical (ofParts s m e) := by
  unfold ofParts
  split
  next => trivial
  next => exact ⟨few, least, full⟩

/-! ## Dropping digits -/

section Shift

variable {m k n : Nat}

/-- To shift a mantissa is to divide it by a power of two. -/
theorem mantissa_shift (m k : Nat) :
    (ExtendedMantissa.ofMantissaAndAccuracy m .exact >>> k).mantissa = m / 2 ^ k := by
  show (k.repeat ExtendedMantissa.shiftRightOne _).mantissa = _
  induction k with
  | zero => simp [Nat.repeat, ExtendedMantissa.ofMantissaAndAccuracy]
  | succ k ih =>
    rw [Nat.repeat, ExtendedMantissa.shiftRightOne, ih, Nat.div_div_eq_div_mul, ← Nat.pow_succ]

/-- Nothing is lost where the digits that are dropped are zeros. -/
theorem shift_of_dvd (h : 2 ^ k ∣ m) :
    ExtendedMantissa.ofMantissaAndAccuracy m .exact >>> k = ⟨m / 2 ^ k, false, false⟩ := by
  show k.repeat ExtendedMantissa.shiftRightOne _ = _
  induction k with
  | zero => simp [Nat.repeat, ExtendedMantissa.ofMantissaAndAccuracy]
  | succ k ih =>
    obtain ⟨c, rfl⟩ := h
    have even : 2 ^ (k + 1) * c / 2 ^ k = 2 * c := by
      rw [Nat.pow_succ, Nat.mul_assoc, Nat.mul_div_cancel_left _ (Nat.two_pow_pos k)]
    have clear := ih ⟨2 * c, by rw [Nat.pow_succ, Nat.mul_assoc]⟩
    rw [Nat.repeat, clear, even, ExtendedMantissa.shiftRightOne,
      Nat.mul_div_cancel_left _ (Nat.two_pow_pos (k + 1))]
    simp

/-- Rounding takes a mantissa up by one at most. -/
theorem roundedMantissa_mem (em : ExtendedMantissa) :
    em.mantissa ≤ em.roundedMantissa ∧ em.roundedMantissa ≤ em.mantissa + 1 := by
  obtain ⟨m, half, more⟩ := em
  cases half <;> cases more <;>
    simp only [ExtendedMantissa.roundedMantissa, ExtendedMantissa.accuracy,
      Accuracy.roundToNearestEven] <;>
    omega

/-- A mantissa without its last digits, rounded. -/
def nearest (m k : Nat) : Nat :=
  (ExtendedMantissa.ofMantissaAndAccuracy m .exact >>> k).roundedMantissa

/-- Rounding does not go past a whole number that is not below. -/
theorem nearest_le (h : m ≤ n * 2 ^ k) : nearest m k ≤ n := by
  by_cases whole : 2 ^ k ∣ m
  · rw [nearest, shift_of_dvd whole]
    exact Nat.div_le_of_le_mul (Nat.mul_comm n _ ▸ h)
  · have below : m < n * 2 ^ k := by
      refine Nat.lt_of_le_of_ne h fun same => whole ?_
      rw [same]
      exact Nat.dvd_mul_left _ _
    have truncated : m / 2 ^ k < n := (Nat.div_lt_iff_lt_mul (Nat.two_pow_pos k)).mpr below
    have up := (roundedMantissa_mem (ExtendedMantissa.ofMantissaAndAccuracy m .exact >>> k)).2
    rw [mantissa_shift] at up
    exact Nat.le_trans up truncated

theorem le_nearest (h : n * 2 ^ k ≤ m) : n ≤ nearest m k := by
  have down := (roundedMantissa_mem (ExtendedMantissa.ofMantissaAndAccuracy m .exact >>> k)).1
  rw [mantissa_shift] at down
  exact Nat.le_trans ((Nat.le_div_iff_mul_le (Nat.two_pow_pos k)).mpr h) down

end Shift

/-! ## Rounding to a double -/

/-- The exponent that a mantissa at an exponent is rounded to. -/
def target (m : Nat) (e : Int) : Int := Format.binary64.targetExponent (totalExponent m e)

/-- A number is rounded to 53 digits, or to the least exponent. -/
theorem target_eq (m : Nat) (e : Int) : target m e = max (m.log2 + 1 + e - 53) (-1074) := rfl

/-- A double that an exact magnitude is rounded to. -/
structure Rounds (x : ℚ) (s : Sign) (u : UnpackedFloat) : Prop where
  parts : ∃ m e, u = ofParts s m e
  canonical : Canonical u
  /-- No rounding passes a double. -/
  le : ∀ m e, m < 2 ^ 53 → -1074 ≤ e → x ≤ scaled m e → magnitude u ≤ scaled m e
  ge : ∀ m e, m < 2 ^ 53 → -1074 ≤ e → scaled m e ≤ x → scaled m e ≤ magnitude u

section Round

variable {s : Sign} {m : Nat} {e : Int}

/-- The digits that remain fill a mantissa, or the exponent is the least one. Rounding up can fill
it to one digit more. -/
theorem nearest_mem (positive : 0 < m) (low : e ≤ target m e) :
    nearest m (target m e - e).toNat ≤ 2 ^ 53 ∧
      (2 ^ 52 ≤ nearest m (target m e - e).toNat ∨ target m e = -1074) := by
  have exponent := target_eq m e
  constructor
  · apply nearest_le
    rw [← Nat.pow_add]
    have fits : m < 2 ^ (m.log2 + 1) := Nat.lt_log2_self
    refine Nat.le_of_lt (Nat.lt_of_lt_of_le fits (Nat.pow_le_pow_right Nat.two_pos ?_))
    omega
  · rw [or_iff_not_imp_right]
    intro above
    apply le_nearest
    rw [← Nat.pow_add]
    refine Nat.le_trans (Nat.pow_le_pow_right Nat.two_pos ?_) (Nat.log2_self_le positive.ne')
    omega

/-- What is left after rounding goes to the next exponent where rounding filled the mantissa. -/
theorem roundWithAccuracy_eq (positive : 0 < m) (low : e ≤ target m e) :
    ∃ n t, roundWithAccuracy .binary64 s m e .exact = ofParts s n t ∧ n < 2 ^ 53 ∧ -1074 ≤ t ∧
      (2 ^ 52 ≤ n ∨ t = -1074) ∧
      scaled n t = scaled (nearest m (target m e - e).toNat) (target m e) := by
  obtain ⟨few, full⟩ := nearest_mem positive low
  have least : -1074 ≤ target m e := by rw [target_eq]; omega
  have settles : e + (target m e - e).toNat = target m e := by omega
  have once : roundWithAccuracy .binary64 s m e .exact =
      let k := (target m e - e).toNat
      let again := (target (nearest m k) (e + k) - (e + k)).toNat
      ofParts s (ExtendedMantissa.ofMantissaAndAccuracy (nearest m k) .exact >>> again).mantissa
        (e + k + again) := rfl
  dsimp only at once
  rw [settles] at once
  rw [once]
  generalize nearest m (target m e - e).toNat = r at few full
  generalize target m e = t at full least
  -- Rounding up may fill the mantissa to a 54th digit. It is then shifted once more.
  rcases Nat.lt_or_eq_of_le few with below | filled
  · have stays : (target r t - t).toNat = 0 := by
      have digits : r.log2 < 53 := by
        by_cases none : r = 0
        · rw [none]
          decide
        · exact (Nat.log2_lt none).mpr below
      rw [target_eq]
      omega
    refine ⟨r, t, ?_, below, least, full, rfl⟩
    simp [stays, mantissa_shift]
  · have moves : (target r t - t).toNat = 1 := by
      rw [target_eq, filled, Nat.log2_two_pow]
      omega
    refine ⟨2 ^ 52, t + 1, ?_, by decide, by omega, .inl (Nat.le_refl _), ?_⟩
    · rw [moves, mantissa_shift, filled]
      rfl
    · rw [filled]
      exact (scaled_shift (2 ^ 52) rfl).symm

/-- A mantissa with digits enough is rounded to a double, past no other double. -/
theorem rounds_roundWithAccuracy (positive : 0 < m) (low : e ≤ target m e) :
    Rounds (scaled m e) s (roundWithAccuracy .binary64 s m e .exact) := by
  obtain ⟨n, t, same, few, least, full, value⟩ := roundWithAccuracy_eq (s := s) positive low
  have settles : e + (target m e - e).toNat = target m e := by omega
  have exponent_eq := target_eq m e
  -- A bound whose exponent is not below the target is a multiple of what the last digit stands for.
  have multiple : ∀ bound exponent, target m e ≤ exponent →
      scaled bound exponent = scaled (bound * 2 ^ (exponent - target m e).toNat) (target m e) :=
    fun bound exponent coarse => (scaled_shift bound (by omega)).symm
  -- Any other bound has smaller exponent than a number with all its digits, so it is below it.
  have lower : ∀ bound exponent, bound < 2 ^ 53 → exponent < target m e →
      ∀ digits : Int, target m e ≤ digits - 52 → scaled bound exponent < 2 ^ digits := by
    intro bound exponent small fine digits many
    have above : scaled bound exponent < scaled (2 ^ 53) exponent := scaled_lt_scaled.mpr small
    rw [scaled_pow] at above
    exact above.trans_le (zpow_le_zpow_right₀ one_le_two (by push_cast; omega))
  rw [same]
  refine ⟨⟨n, t, rfl⟩, canonical_ofParts few least full,
    fun bound exponent small normal below => ?_, fun bound exponent small normal above => ?_⟩
  · rw [magnitude_ofParts, value]
    by_cases coarse : target m e ≤ exponent
    · rw [multiple bound exponent coarse] at below ⊢
      rw [← scaled_shift _ settles, scaled_le_scaled] at below
      exact scaled_le_scaled.mpr (nearest_le below)
    · exfalso
      have digits : scaled (2 ^ m.log2) e ≤ scaled m e :=
        scaled_le_scaled.mpr (Nat.log2_self_le positive.ne')
      rw [scaled_pow] at digits
      have under := lower bound exponent small (by omega) (m.log2 + e) (by omega)
      exact absurd below (not_le.mpr (under.trans_le digits))
  · rw [magnitude_ofParts, value]
    by_cases coarse : target m e ≤ exponent
    · rw [multiple bound exponent coarse] at above ⊢
      rw [← scaled_shift _ settles, scaled_le_scaled] at above
      exact scaled_le_scaled.mpr (le_nearest above)
    · have filled := (nearest_mem positive low).2.resolve_right (by omega)
      have digits := (scaled_le_scaled (e := target m e)).mpr filled
      rw [scaled_pow] at digits
      have under := lower bound exponent small (by omega) (52 + target m e) (by omega)
      exact under.le.trans digits

/-- Zeros behind a mantissa do not change the exponent that it is rounded to. -/
theorem target_decreaseExponent (positive : 0 < m) (t : Int) :
    target (decreaseExponent m e t).1 (decreaseExponent m e t).2 = target m e := by
  have digits : (m <<< (e - t).toNat).log2 = m.log2 + (e - t).toNat := by
    generalize (e - t).toNat = k
    have low : 2 ^ m.log2 ≤ m := Nat.log2_self_le positive.ne'
    have high : m < 2 ^ (m.log2 + 1) := Nat.lt_log2_self
    rw [Nat.shiftLeft_eq, Nat.log2_eq_iff (by positivity), Nat.pow_add, Nat.add_right_comm,
      Nat.pow_add]
    exact ⟨Nat.mul_le_mul_right _ low, Nat.mul_lt_mul_of_pos_right high (Nat.two_pow_pos k)⟩
  rw [target_eq, target_eq, decreaseExponent]
  dsimp only
  rw [digits]
  omega

/-- What has too few digits gets zeros for them, and is rounded to a double all the same. -/
theorem rounds_round (positive : 0 < m) :
    Rounds (scaled m e) s (UnpackedFloat.round .binary64 s m e) := by
  have same := target_decreaseExponent positive (e := e) (target m e)
  have value : scaled (m <<< (e - target m e).toNat) (e - (e - target m e).toNat) = scaled m e := by
    rw [Nat.shiftLeft_eq]
    exact scaled_shift m (by omega)
  have rounds := rounds_roundWithAccuracy (s := s) (m := (decreaseExponent m e (target m e)).1)
    (e := (decreaseExponent m e (target m e)).2)
    (by rw [decreaseExponent, Nat.shiftLeft_eq]; positivity)
    (by rw [same, decreaseExponent]; dsimp only; omega)
  rw [decreaseExponent, value] at rounds
  exact rounds

/-- The sum of two aligned numbers is rounded to a double. -/
theorem rounds_normalize (n : Int) (e : Int) :
    ∃ s, Rounds (scaled n.natAbs e) s (UnpackedFloat.normalize .binary64 n e .positive) ∧
      (0 ≤ n → s = .positive) := by
  unfold UnpackedFloat.normalize
  split
  next negative =>
    have below : n < 0 := Int.compare_eq_lt.mp negative
    refine ⟨.negative, ?_, by omega⟩
    have same : (-n).toNat = n.natAbs := by omega
    rw [same]
    exact rounds_round (by omega)
  next none =>
    have none : n = 0 := Int.compare_eq_eq.mp none
    refine ⟨.positive, ⟨⟨0, 0, rfl⟩, trivial, fun m t _ _ _ => scaled_nonneg,
      fun m t _ _ above => ?_⟩, fun _ => rfl⟩
    rwa [none, Int.natAbs_zero, scaled_zero] at above
  next positive =>
    have above : 0 < n := Int.compare_eq_gt.mp positive
    refine ⟨.positive, ?_, fun _ => rfl⟩
    have same : n.toNat = n.natAbs := by omega
    rw [same]
    exact rounds_round (by omega)

end Round
end GatewayClient.Double
