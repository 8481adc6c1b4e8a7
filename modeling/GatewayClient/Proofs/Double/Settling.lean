import GatewayClient.Proofs.Double.Order

/-!
# Rounded results

A result is a double once it is settled: put together, and taken apart again. What is beyond the
range of doubles settles for an infinity, everything else for itself.

**A result that is bounded by a double settles for a finite number**, and the bound holds of it
(`settles_of_rounds`). So a product and a sum of finite doubles do where the exact result is bounded
(`settles_mul`, `settles_add`). **A result that is not negative settles for none that is**, and for
no NaN, though it may be infinite (`nonneg_mul`, `nonneg_add`).
-/

set_option autoImplicit false

namespace GatewayClient.Double

open Float.Model Float.Model.UnpackedFloat

/-- The number is zero, positive or the positive infinity. -/
def Nonneg : UnpackedFloat → Prop
  | .zero _ | .finite .positive .. | .infinity .positive => True
  | _ => False

/-! ## Settling -/

/-- Settling a number for a double: it is put together and taken apart again. -/
def settle (u : UnpackedFloat) : UnpackedFloat :=
  UnpackedFloat.unpack .binary64 (UnpackedFloat.pack .binary64 u)

theorem settle_zero (s : Sign) : settle (.zero s) = .zero s :=
  unpack_pack_ofParts s (m := 0) (e := -1074) (by decide) (by decide) (.inr rfl)

theorem settle_infinity (s : Sign) : settle (.infinity s) = .infinity s := unpack_packedInfinity s

/-- A number of the form of doubles settles for itself, or for an infinity if its exponent is too
large. -/
theorem settle_finite {s : Sign} {m : Nat} {e : Int} {positive : 0 < m}
    (canonical : Canonical (.finite s m e positive)) :
    settle (.finite s m e positive) =
      if e ≤ greatestExponent then .finite s m e positive else .infinity s := by
  have same : ofParts s m e = .finite s m e positive := dif_neg positive.ne'
  rw [← same]
  exact unpack_pack_ofParts s canonical.1 canonical.2.1 canonical.2.2

/-- The parts of a finite double. -/
structure IsDouble (u : UnpackedFloat) : Prop where
  canonical : Canonical u
  inRange : InRange u
  finite : u.isFinite = true

/-- The parts of a finite double are settled. -/
theorem IsDouble.settle_eq {u : UnpackedFloat} (h : IsDouble u) : settle u = u := by
  obtain ⟨canonical, range, finite⟩ := h
  cases u with
  | infinity | notANumber => cases finite
  | zero s => exact settle_zero s
  | finite s m e positive =>
    rw [settle_finite canonical]
    exact if_pos range

/-- A finite double whose value is not negative is not negative. -/
theorem IsDouble.nonneg {u : UnpackedFloat} (h : IsDouble u) (natural : 0 ≤ value u) :
    Nonneg u := by
  match u, h, natural with
  | .zero _, _, _ | .finite .positive .., _, _ => trivial
  | .finite .negative m e pos, _, natural =>
    exact absurd natural (not_le.mpr (neg_lt_zero.mpr (scaled_pos pos)))
  | .infinity _, h, _ | .notANumber, h, _ => exact nomatch h.finite

/-- A magnitude that a double can have. -/
def IsBound (b : ℚ) : Prop :=
  ∃ m e, m < 2 ^ 53 ∧ -1074 ≤ e ∧ e ≤ greatestExponent ∧ b = scaled m e

/-- Whole numbers of 53 binary digits are magnitudes that doubles have. -/
theorem isBound_natCast {n : Nat} (small : n < 2 ^ 53) : IsBound n :=
  ⟨n, 0, small, by decide, by decide, by simp [scaled]⟩

/-! ## Bounds -/

/-- A number settles for a finite double of bounded magnitude. -/
structure Settles (u : UnpackedFloat) (b : ℚ) : Prop where
  finite : (settle u).isFinite = true
  le : magnitude (settle u) ≤ b

/-- What is rounded to a number below a double is a double itself. -/
theorem settles_of_rounds {x b : ℚ} {s : Sign} {u : UnpackedFloat} (rounds : Rounds x s u)
    (bound : IsBound b) (below : x ≤ b) : Settles u b := by
  obtain ⟨m, e, few, least, low, rfl⟩ := bound
  obtain ⟨n, t, rfl⟩ := rounds.parts
  have small := rounds.le m e few least below
  suffices settled : settle (ofParts s n t) = ofParts s n t by
    refine ⟨?_, by rw [settled]; exact small⟩
    rw [settled, ofParts]
    split <;> rfl
  have canonical := rounds.canonical
  unfold ofParts at small canonical ⊢
  split
  next => exact settle_zero s
  next positive =>
    rw [dif_neg positive] at small canonical
    obtain ⟨few', least', full⟩ := canonical
    rw [settle_finite ⟨few', least', full⟩, if_pos]
    by_contra high
    have full : 2 ^ 52 ≤ n := full.resolve_right (by unfold greatestExponent at high; omega)
    exact absurd small (not_le.mpr (scaled_lt_of_exponent few full (by omega)))

/-- A finite number that is rounded without a minus is zero, positive or the positive infinity. -/
theorem nonneg_of_rounds {x : ℚ} {u : UnpackedFloat} (rounds : Rounds x .positive u) :
    Nonneg (settle u) := by
  obtain ⟨n, t, rfl⟩ := rounds.parts
  have canonical := rounds.canonical
  unfold ofParts at canonical ⊢
  split
  next =>
    rw [settle_zero]
    trivial
  next positive =>
    rw [dif_neg positive] at canonical
    rw [settle_finite canonical]
    split <;> trivial

/-! ## Products -/

section Product

variable {m n : Nat} {e t : Int}

/-- The exact product of two numbers has digits enough to be rounded. -/
theorem low_mul {s s' : Sign} {pos : 0 < m} {pos' : 0 < n}
    (hu : Canonical (.finite s m e pos)) (hv : Canonical (.finite s' n t pos')) :
    e + t ≤ target (m * n) (e + t) := by
  obtain ⟨-, least, full⟩ := hu
  obtain ⟨-, least', full'⟩ := hv
  rw [target_eq]
  by_cases many : 2 ^ 52 ≤ m * n
  · have digits : 52 ≤ (m * n).log2 := (Nat.le_log2 (by positivity)).mpr many
    omega
  · have few : ¬ 2 ^ 52 ≤ m := fun h => many (h.trans (Nat.le_mul_of_pos_right m pos'))
    have few' : ¬ 2 ^ 52 ≤ n := fun h => many (h.trans (Nat.le_mul_of_pos_left n pos))
    have := full.resolve_left few
    have := full'.resolve_left few'
    omega

/-- The product of scaled numbers has the product of the mantissas and the sum of the exponents. -/
theorem scaled_mul (m n : Nat) (e t : Int) : scaled (m * n) (e + t) = scaled m e * scaled n t := by
  rw [scaled, scaled, scaled, zpow_add₀ two_ne_zero]
  push_cast
  ring

/-- The product of finite numbers is rounded to a double. -/
theorem rounds_mul {s s' : Sign} {pos : 0 < m} {pos' : 0 < n}
    (hu : Canonical (.finite s m e pos)) (hv : Canonical (.finite s' n t pos')) :
    Rounds (scaled m e * scaled n t) (s * s')
      (UnpackedFloat.mul .binary64 (.finite s m e pos) (.finite s' n t pos')) := by
  rw [← scaled_mul]
  exact rounds_roundWithAccuracy (Nat.mul_pos pos pos') (low_mul hu hv)

/-- A product of finite doubles that is bounded by a double stays finite and bounded. -/
theorem settles_mul {u v : UnpackedFloat} {b : ℚ} (hu : IsDouble u) (hv : IsDouble v)
    (bound : IsBound b) (le : |value u * value v| ≤ b) :
    Settles (UnpackedFloat.mul .binary64 u v) b := by
  have zero : ∀ s, Settles (.zero s) b := fun s =>
    ⟨by rw [settle_zero]; rfl, by rw [settle_zero]; exact (abs_nonneg _).trans le⟩
  rw [abs_mul, abs_value, abs_value] at le
  obtain ⟨cu, -, fu⟩ := hu
  obtain ⟨cv, -, fv⟩ := hv
  cases u with
  | infinity | notANumber => cases fu
  | zero s =>
    cases v with
    | infinity | notANumber => cases fv
    | zero | finite => exact zero _
  | finite s m e pos =>
    cases v with
    | infinity | notANumber => cases fv
    | zero => exact zero _
    | finite s' n t pos' => exact settles_of_rounds (rounds_mul cu cv) bound le

/-- The product of a number that is not negative and a positive one is not negative, and no NaN. -/
theorem nonneg_mul {u v : UnpackedFloat} (cu : Canonical u) (nonneg : Nonneg u) (hv : IsDouble v)
    (positive : 0 < value v) : Nonneg (settle (UnpackedFloat.mul .binary64 u v)) := by
  cases v with
  | zero | infinity | notANumber => exact absurd positive (lt_irrefl 0)
  | finite s' n t pos' =>
    cases s' with
    | negative => exact absurd positive (not_lt.mpr (neg_nonpos.mpr scaled_nonneg))
    | positive =>
      cases u with
      | notANumber => cases nonneg
      | zero s =>
        rw [UnpackedFloat.mul, settle_zero]
        trivial
      | infinity s =>
        cases s with
        | negative => cases nonneg
        | positive =>
          rw [UnpackedFloat.mul, settle_infinity]
          trivial
      | finite s m e pos =>
        cases s with
        | negative => cases nonneg
        | positive => exact nonneg_of_rounds (rounds_mul cu hv.canonical)

end Product

/-! ## Sums -/

section Sum

variable {m n : Nat} {e t : Int}

/-- A number whose exponent was lowered has the same value. -/
theorem value_aligned (s : Sign) (m : Nat) (lower : t ≤ e) (positive : 0 < m) :
    ((s.apply (decreaseExponent m e t).1 : Int) : ℚ) * 2 ^ t = value (.finite s m e positive) := by
  have same : scaled (decreaseExponent m e t).1 t = scaled m e := by
    rw [decreaseExponent, Nat.shiftLeft_eq]
    exact scaled_shift m (by omega)
  cases s with
  | positive =>
    rw [Sign.apply, Int.cast_natCast]
    exact same
  | negative =>
    rw [Sign.apply, Int.cast_neg, Int.cast_natCast, neg_mul]
    exact congrArg _ same

theorem scaled_natAbs (n : Int) (e : Int) : scaled n.natAbs e = |(n : ℚ) * 2 ^ e| := by
  rw [abs_mul, abs_of_nonneg (by positivity : (0 : ℚ) ≤ 2 ^ e), scaled, Nat.cast_natAbs]
  push_cast
  rfl

/-- The sum of finite numbers is rounded to a double, without a minus if it is not negative. -/
theorem rounds_add (s s' : Sign) (e t : Int) (pos : 0 < m) (pos' : 0 < n) :
    ∃ sign, Rounds |value (.finite s m e pos) + value (.finite s' n t pos')| sign
        (UnpackedFloat.add .binary64 (.finite s m e pos) (.finite s' n t pos')) ∧
      (0 ≤ value (.finite s m e pos) + value (.finite s' n t pos') → sign = .positive) := by
  obtain ⟨sign, rounds, signs⟩ := rounds_normalize
    (s.apply (decreaseExponent m e (min e t)).1 + s'.apply (decreaseExponent n t (min e t)).1)
    (min e t)
  have total : ((s.apply (decreaseExponent m e (min e t)).1 +
      s'.apply (decreaseExponent n t (min e t)).1 : Int) : ℚ) * 2 ^ min e t =
      value (.finite s m e pos) + value (.finite s' n t pos') := by
    rw [Int.cast_add, add_mul, value_aligned s m (Int.min_le_left e t) pos,
      value_aligned s' n (Int.min_le_right e t) pos']
  rw [scaled_natAbs, total] at rounds
  refine ⟨sign, rounds, fun natural => signs ?_⟩
  rw [← total] at natural
  exact Int.cast_nonneg_iff.mp (nonneg_of_mul_nonneg_left natural (by positivity))

/-- The sum of finite doubles is a double as it is, or it is rounded to one. -/
theorem add_cases {u v : UnpackedFloat} (hu : IsDouble u) (hv : IsDouble v) :
    (IsDouble (UnpackedFloat.add .binary64 u v) ∧
        value (UnpackedFloat.add .binary64 u v) = value u + value v) ∨
      ∃ sign, Rounds |value u + value v| sign (UnpackedFloat.add .binary64 u v) ∧
        (0 ≤ value u + value v → sign = .positive) := by
  cases u with
  | infinity | notANumber => cases hu.finite
  | zero s =>
    left
    cases v with
    | infinity | notANumber => cases hv.finite
    | zero s' =>
      rw [UnpackedFloat.add, value_zero, value_zero, zero_add]
      split
      next => exact ⟨⟨trivial, trivial, rfl⟩, rfl⟩
      next => exact ⟨⟨trivial, trivial, rfl⟩, rfl⟩
    | finite => exact ⟨hv, (zero_add _).symm⟩
  | finite s m e pos =>
    cases v with
    | infinity | notANumber => cases hv.finite
    | zero => exact .inl ⟨hu, (add_zero _).symm⟩
    | finite s' n t pos' => exact .inr (rounds_add s s' e t pos pos')

/-- A sum of finite doubles that is bounded by a double stays finite and bounded. -/
theorem settles_add {u v : UnpackedFloat} {b : ℚ} (hu : IsDouble u) (hv : IsDouble v)
    (bound : IsBound b) (le : |value u + value v| ≤ b) :
    Settles (UnpackedFloat.add .binary64 u v) b := by
  rcases add_cases hu hv with ⟨double, same⟩ | ⟨sign, rounds, -⟩
  · refine ⟨?_, ?_⟩
    · rw [double.settle_eq]
      exact double.finite
    · rw [double.settle_eq, ← abs_value, same]
      exact le
  · exact settles_of_rounds rounds bound le

/-- A sum that is not negative is not negative after rounding, and no NaN. -/
theorem nonneg_add {u v : UnpackedFloat} (hu : IsDouble u) (hv : IsDouble v)
    (natural : 0 ≤ value u + value v) : Nonneg (settle (UnpackedFloat.add .binary64 u v)) := by
  rcases add_cases hu hv with ⟨double, same⟩ | ⟨sign, rounds, signs⟩
  · rw [double.settle_eq]
    exact double.nonneg (natural.trans_eq same.symm)
  · rw [signs natural] at rounds
    exact nonneg_of_rounds rounds

/-- A difference is a sum with the other sign. -/
theorem sub_eq_add (u v : UnpackedFloat) :
    UnpackedFloat.sub .binary64 u v = UnpackedFloat.add .binary64 u v.neg := by
  cases u with
  | notANumber => rfl
  | infinity s => cases v <;> rfl
  | zero s => cases v <;> rfl
  | finite s m e pos =>
    cases v with
    | notANumber | infinity | zero => rfl
    | finite s' n t pos' =>
      have minus : ∀ k : Nat, (-s').apply (k : Int) = -s'.apply (k : Int) := fun k => by
        cases s'
        · exact (Int.neg_neg _).symm
        · rfl
      simp only [UnpackedFloat.sub, UnpackedFloat.neg, UnpackedFloat.add, minus, Int.sub_eq_add_neg]

/-- A number with the other sign has the opposite value. -/
theorem value_neg (u : UnpackedFloat) : value u.neg = -value u := by
  cases u with
  | finite s m e pos =>
    cases s with
    | positive => rfl
    | negative => exact (neg_neg _).symm
  | zero | infinity | notANumber => exact neg_zero.symm

/-- The parts of a finite double with the other sign are those of one. -/
theorem IsDouble.neg {u : UnpackedFloat} (h : IsDouble u) : IsDouble u.neg := by
  obtain ⟨canonical, range, finite⟩ := h
  cases u with
  | infinity | notANumber => cases finite
  | zero => exact ⟨trivial, trivial, rfl⟩
  | finite s m e pos => exact ⟨canonical, range, rfl⟩

end Sum

end GatewayClient.Double
