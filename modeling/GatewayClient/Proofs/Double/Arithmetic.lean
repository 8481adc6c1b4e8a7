import GatewayClient.Proofs.Double.Settling

/-!
# Doubles that stay finite

Finite doubles are ordered as their values are (`le_iff`). Their products, sums and differences are
finite as long as the exact result is bounded by a double, and the bound holds of what it is rounded
to (`Below.mul`, `Below.add`, `below_sub`). A product or a difference that is not negative is not
negative after rounding either (`mul_nonneg_of_pos`, `sub_nonneg_of_le`).
-/

set_option autoImplicit false

namespace GatewayClient.Double

open Float.Model Float.Model.UnpackedFloat

/-- The parts of a double. -/
def parts (x : Float) : UnpackedFloat := x.toModel.unpack

/-- The value of a finite double. -/
def val (x : Float) : ℚ := value (parts x)

/-- A double has the form of doubles. -/
theorem canonical_parts (x : Float) : Canonical (parts x) := (canonical_unpack _).1

theorem inRange_parts (x : Float) : InRange (parts x) := (canonical_unpack _).2

/-! ## Comparisons -/

section Order

variable {x y : Float}

/-- Doubles are ordered as their parts compare. -/
theorem le_iff_compare : x ≤ y ↔
    (UnpackedFloat.compare (parts x) (parts y)).any (·.isLE) = true := by
  show (decide (UnpackedFloat.le (parts x) (parts y) = true) = true) ↔ _
  rw [decide_eq_true_iff]
  rfl

theorem lt_iff_compare : x < y ↔ UnpackedFloat.compare (parts x) (parts y) = some .lt := by
  show (decide (UnpackedFloat.lt (parts x) (parts y) = true) = true) ↔ _
  rw [decide_eq_true_iff, UnpackedFloat.lt, beq_iff_eq]

/-- Finite doubles are ordered as their values are. -/
theorem le_iff (fx : x.isFinite = true) (fy : y.isFinite = true) : x ≤ y ↔ val x ≤ val y := by
  obtain ⟨o, compared, order⟩ := compares_value (canonical_parts x) (canonical_parts y) fx fy
  rw [le_iff_compare, compared, Option.any_some]
  cases o with
  | lt => exact ⟨fun _ => le_of_lt order, fun _ => rfl⟩
  | eq => exact ⟨fun _ => le_of_eq order, fun _ => rfl⟩
  | gt => exact ⟨nofun, fun le => absurd le (not_le.mpr order)⟩

theorem lt_iff (fx : x.isFinite = true) (fy : y.isFinite = true) : x < y ↔ val x < val y := by
  obtain ⟨o, compared, order⟩ := compares_value (canonical_parts x) (canonical_parts y) fx fy
  rw [lt_iff_compare, compared, Option.some_inj]
  cases o with
  | lt => exact ⟨fun _ => order, fun _ => rfl⟩
  | eq => exact ⟨nofun, fun lt => absurd order lt.ne⟩
  | gt => exact ⟨nofun, fun lt => absurd order (not_lt.mpr lt.le)⟩

end Order

/-- A double is not below zero exactly if its parts are zero, positive or the positive infinity. -/
theorem nonneg_iff {x : Float} : 0.0 ≤ x ↔ Nonneg (parts x) := by
  have zero : parts 0.0 = .zero .positive := rfl
  rw [le_iff_compare, zero]
  match parts x with
  | .notANumber | .finite .negative .. | .infinity .negative => exact ⟨nofun, False.elim⟩
  | .zero _ | .finite .positive .. | .infinity .positive => exact ⟨fun _ => trivial, fun _ => rfl⟩

/-! ## Operations -/

/-- The product of doubles is that of their parts, settled for a double. -/
theorem parts_mul (x y : Float) :
    parts (x * y) = settle (UnpackedFloat.mul .binary64 (parts x) (parts y)) := rfl

theorem parts_add (x y : Float) :
    parts (x + y) = settle (UnpackedFloat.add .binary64 (parts x) (parts y)) := rfl

theorem parts_sub (x y : Float) :
    parts (x - y) = settle (UnpackedFloat.sub .binary64 (parts x) (parts y)) := rfl

theorem isDouble_parts {x : Float} (finite : x.isFinite = true) : IsDouble (parts x) :=
  ⟨canonical_parts x, inRange_parts x, finite⟩

/-- The magnitude of a double is one that doubles can have. -/
theorem isBound_val (x : Float) : IsBound |val x| := by
  have canonical := canonical_parts x
  have range := inRange_parts x
  rw [val, abs_value]
  generalize parts x = u at *
  cases u with
  | finite s m e positive => exact ⟨m, e, canonical.1, canonical.2.1, range, rfl⟩
  | zero | infinity | notANumber => exact ⟨0, 0, by decide, by decide, by decide, scaled_zero.symm⟩

/-! ## Bounded doubles -/

/-- The double is finite, and its magnitude is bounded. -/
structure Below (x : Float) (b : ℚ) : Prop where
  finite : x.isFinite = true
  le : |val x| ≤ b

section Below

variable {x y : Float} {a b : ℚ}

/-- What settles within a bound is a double within it. -/
theorem below_of_settles {u : UnpackedFloat} (same : parts x = settle u) (settles : Settles u b) :
    Below x b := by
  refine ⟨?_, ?_⟩
  · show (parts x).isFinite = true
    rw [same]
    exact settles.finite
  · rw [val, abs_value, same]
    exact settles.le

/-- A product of bounded doubles is bounded by the product of the bounds. -/
theorem Below.mul (hx : Below x a) (hy : Below y b) (bound : IsBound (a * b)) :
    Below (x * y) (a * b) := by
  refine below_of_settles (parts_mul x y)
    (settles_mul (isDouble_parts hx.finite) (isDouble_parts hy.finite) bound ?_)
  rw [abs_mul]
  exact mul_le_mul hx.le hy.le (abs_nonneg _) ((abs_nonneg _).trans hx.le)

theorem Below.add (hx : Below x a) (hy : Below y b) (bound : IsBound (a + b)) :
    Below (x + y) (a + b) :=
  below_of_settles (parts_add x y)
    (settles_add (isDouble_parts hx.finite) (isDouble_parts hy.finite) bound
      ((abs_add_le _ _).trans (add_le_add hx.le hy.le)))

/-- A difference of finite doubles is finite if its exact value is bounded by a double. -/
theorem below_sub (fx : x.isFinite = true) (fy : y.isFinite = true) (bound : IsBound b)
    (le : |val x - val y| ≤ b) : Below (x - y) b := by
  have same : parts (x - y) = settle (UnpackedFloat.add .binary64 (parts x) (parts y).neg) := by
    rw [parts_sub, sub_eq_add]
  refine below_of_settles same
    (settles_add (isDouble_parts fx) (isDouble_parts fy).neg bound ?_)
  rwa [value_neg, ← sub_eq_add_neg]

theorem Below.sub (hx : Below x a) (hy : Below y b) (bound : IsBound (a + b)) :
    Below (x - y) (a + b) :=
  below_sub hx.finite hy.finite bound ((abs_sub _ _).trans (add_le_add hx.le hy.le))

end Below

/-! ## Times and delays -/

section Nonneg

variable {x y : Float}

theorem val_zero : val 0.0 = 0 := rfl

theorem val_one : val 1.0 = 1 := by
  show scaled (2 ^ 52) (-52) = 1
  norm_num [scaled]

/-- A finite double is not below zero exactly if its value is not. -/
theorem nonneg_iff_val (finite : x.isFinite = true) : 0.0 ≤ x ↔ 0 ≤ val x := le_iff rfl finite

/-- What is infinite and not negative is the positive infinity. -/
theorem parts_of_infinite (nonneg : 0.0 ≤ x) (infinite : x.isFinite = false) :
    parts x = .infinity .positive := by
  rw [nonneg_iff] at nonneg
  change (parts x).isFinite = false at infinite
  generalize parts x = u at *
  cases u with
  | notANumber => cases nonneg
  | zero | finite => cases infinite
  | infinity s =>
    cases s with
    | positive => rfl
    | negative => cases nonneg

/-- Every finite number is below the positive infinity. -/
theorem lt_of_infinite (finite : y.isFinite = true) (infinite : parts x = .infinity .positive) :
    y < x ∧ ¬ x ≤ y ∧ ¬ x < y := by
  rw [lt_iff_compare, le_iff_compare, lt_iff_compare, infinite]
  change (parts y).isFinite = true at finite
  generalize parts y = v at *
  cases v with
  | infinity | notANumber => cases finite
  | zero => exact ⟨rfl, nofun, nofun⟩
  | finite s m e pos => cases s <;> exact ⟨rfl, nofun, nofun⟩

/-- A number that is not negative and not above a finite one is finite. -/
theorem finite_of_not_lt (nonneg : 0.0 ≤ x) (finite : y.isFinite = true) (le : ¬ y < x) :
    x.isFinite = true := by
  by_contra infinite
  exact le (lt_of_infinite finite
    (parts_of_infinite nonneg (Bool.not_eq_true _ ▸ infinite))).1

/-- What is not negative and not above a finite double is finite. -/
theorem finite_of_le (nonneg : 0.0 ≤ x) (finite : y.isFinite = true) (le : x ≤ y) :
    x.isFinite = true := by
  by_contra infinite
  exact (lt_of_infinite finite
    (parts_of_infinite nonneg (Bool.not_eq_true _ ▸ infinite))).2.1 le

/-- A product of a number that is not negative and a positive one is not negative. -/
theorem mul_nonneg_of_pos (nonneg : 0.0 ≤ x) (finite : y.isFinite = true) (positive : 0 < val y) :
    0.0 ≤ x * y := by
  rw [nonneg_iff] at nonneg ⊢
  exact nonneg_mul (canonical_parts x) nonneg (isDouble_parts finite) positive

/-- What has passed since an earlier time is not negative. -/
theorem sub_nonneg_of_le (fx : x.isFinite = true) (fy : y.isFinite = true) (le : y ≤ x) :
    0.0 ≤ x - y := by
  rw [nonneg_iff, parts_sub, sub_eq_add]
  refine nonneg_add (isDouble_parts fx) (isDouble_parts fy).neg ?_
  rw [value_neg, ← sub_eq_add_neg]
  exact sub_nonneg.mpr ((le_iff fy fx).mp le)

/-- An infinity that is taken from a finite number leaves the negative one. -/
theorem sub_infinity {u : UnpackedFloat} (finite : u.isFinite = true) :
    UnpackedFloat.sub .binary64 u (.infinity .positive) = .infinity .negative := by
  cases u with
  | infinity | notANumber => cases finite
  | zero | finite => rfl

/-- What is left of a time after part of it is finite, or nothing is left. -/
theorem sub_finite_of_pos (fx : x.isFinite = true) (nx : 0.0 ≤ x) (ny : 0.0 ≤ y)
    (left : ¬ x - y ≤ 0.0) : (x - y).isFinite = true := by
  by_cases fy : y.isFinite = true
  · have hx := (nonneg_iff_val fx).mp nx
    have hy := (nonneg_iff_val fy).mp ny
    have larger : |val x - val y| ≤ max |val x| |val y| := by
      rw [abs_of_nonneg hx, abs_of_nonneg hy, abs_sub_le_iff]
      exact ⟨(sub_le_self _ hy).trans (le_max_left _ _),
        (sub_le_self _ hx).trans (le_max_right _ _)⟩
    have bound : IsBound (max |val x| |val y|) := by
      rcases max_choice |val x| |val y| with one | other
      · rw [one]
        exact isBound_val x
      · rw [other]
        exact isBound_val y
    exact (below_sub fx fy bound larger).finite
  · exfalso
    have infinite := parts_of_infinite ny (Bool.not_eq_true _ ▸ fy)
    have exceeded : parts (x - y) = .infinity .negative := by
      rw [parts_sub, infinite, sub_infinity (isDouble_parts fx).finite, settle_infinity]
    exact left (le_iff_compare.mpr (by rw [exceeded]; rfl))

end Nonneg
end GatewayClient.Double
