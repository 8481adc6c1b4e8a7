import GatewayClient.Proofs.Double.Packing

/-!
# The order of doubles

Finite doubles are compared by exponent and mantissa, and so by value (`compares_value`): of two
that have the form of doubles, the one of greater exponent has the greater magnitude.
-/

set_option autoImplicit false

namespace GatewayClient.Double

open Float.Model Float.Model.UnpackedFloat

section Parts

variable {m n : Nat} {e t : Int}

/-- A number with all its digits is above every number of smaller exponent. -/
theorem scaled_lt_of_exponent (few : m < 2 ^ 53) (full : 2 ^ 52 ≤ n) (lower : e < t) :
    scaled m e < scaled n t := by
  have top : scaled m e < 2 ^ ((53 : Nat) + e) := by
    rw [← scaled_pow]
    exact scaled_lt_scaled.mpr few
  have bottom : (2 : ℚ) ^ ((52 : Nat) + t) ≤ scaled n t := by
    rw [← scaled_pow]
    exact scaled_le_scaled.mpr full
  have order : (2 : ℚ) ^ ((53 : Nat) + e) ≤ 2 ^ ((52 : Nat) + t) :=
    zpow_le_zpow_right₀ one_le_two (by push_cast; omega)
  exact top.trans_le (order.trans bottom)

/-- Numbers of the form of doubles compare by exponent first, and then by mantissa. -/
theorem compares_scaled (few : m < 2 ^ 53) (least : -1074 ≤ e) (full : 2 ^ 52 ≤ m ∨ e = -1074)
    (few' : n < 2 ^ 53) (least' : -1074 ≤ t) (full' : 2 ^ 52 ≤ n ∨ t = -1074) :
    ((compare e t).then (compare m n)).Compares (scaled m e) (scaled n t) := by
  rcases Int.lt_trichotomy e t with lower | rfl | higher
  · rw [Int.compare_eq_lt.mpr lower]
    exact scaled_lt_of_exponent few (full'.resolve_right (by omega)) lower
  · rw [Int.compare_eq_eq.mpr rfl]
    rcases Nat.lt_trichotomy m n with less | rfl | more
    · rw [Nat.compare_eq_lt.mpr less]
      exact scaled_lt_scaled.mpr less
    · rw [Nat.compare_eq_eq.mpr rfl]
      rfl
    · rw [Nat.compare_eq_gt.mpr more]
      exact scaled_lt_scaled.mpr more
  · rw [Int.compare_eq_gt.mpr higher]
    exact scaled_lt_of_exponent few' (full.resolve_right (by omega)) higher

end Parts

/-- The value of a finite number; the others have none to speak of. -/
def value : UnpackedFloat → ℚ
  | .finite .positive m e _ => scaled m e
  | .finite .negative m e _ => -scaled m e
  | _ => 0

@[simp] theorem value_zero (s : Sign) : value (.zero s) = 0 := rfl

/-- The magnitude of a number is the absolute value of its value. -/
theorem abs_value (u : UnpackedFloat) : |value u| = magnitude u := by
  unfold value magnitude
  split
  next => exact abs_of_nonneg scaled_nonneg
  next => exact (abs_neg _).trans (abs_of_nonneg scaled_nonneg)
  next zero positive =>
    split
    next s m e _ =>
      cases s with
      | positive => exact absurd rfl (zero m e _)
      | negative => exact absurd rfl (positive m e _)
    next => exact abs_zero

/-- Finite numbers of the form of doubles compare as their values do. -/
theorem compares_value {u v : UnpackedFloat} (hu : Canonical u) (hv : Canonical v)
    (fu : u.isFinite = true) (fv : v.isFinite = true) :
    ∃ o, UnpackedFloat.compare u v = some o ∧ o.Compares (value u) (value v) := by
  cases u with
  | infinity | notANumber => cases fu
  | zero s =>
    cases v with
    | infinity | notANumber => cases fv
    | zero s' => exact ⟨.eq, rfl, rfl⟩
    | finite s' n t positive =>
      cases s' with
      | positive => exact ⟨.lt, rfl, scaled_pos positive⟩
      | negative => exact ⟨.gt, rfl, neg_lt_zero.mpr (scaled_pos positive)⟩
  | finite s m e pos =>
    cases v with
    | infinity | notANumber => cases fv
    | zero s' =>
      cases s with
      | positive => exact ⟨.gt, rfl, scaled_pos pos⟩
      | negative => exact ⟨.lt, rfl, neg_lt_zero.mpr (scaled_pos pos)⟩
    | finite s' n t pos' =>
      obtain ⟨few, least, full⟩ := hu
      obtain ⟨few', least', full'⟩ := hv
      have magnitudes := compares_scaled few least full few' least' full'
      have left : 0 < scaled m e := scaled_pos pos
      have right : 0 < scaled n t := scaled_pos pos'
      -- Numbers of one sign compare as their magnitudes do, in reverse where both are negative.
      cases s <;> cases s'
      · refine ⟨_, rfl, ?_⟩
        show Ordering.Compares _ (-scaled m e) (-scaled n t)
        revert magnitudes
        cases (compare e t).then (compare m n) with
        | lt => exact fun less => neg_lt_neg less
        | eq => exact fun same => congrArg _ same
        | gt => exact fun more => neg_lt_neg more
      · exact ⟨.lt, rfl, (neg_lt_zero.mpr left).trans right⟩
      · exact ⟨.gt, rfl, (neg_lt_zero.mpr right).trans left⟩
      · exact ⟨_, rfl, magnitudes⟩

end GatewayClient.Double
