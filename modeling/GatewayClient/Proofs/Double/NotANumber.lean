import GatewayClient.Proofs.Double.Arithmetic
import GatewayClient.Time.Seconds

/-!
# Doubles that are no numbers

NaN compares with nothing. So a test that refuses what is below a bound lets it pass
(`not_lt_iff`), and the lesser or greater of two doubles is NaN if the first one is
(`isNaN_least`, `isNaN_greatest`).

**Where NaN comes from.** A product of what is not below zero and what is not below one is NaN only
if a factor of it is, or if the one is zero and the other infinite (`Stretched`). For rounding takes
no positive result to zero: a product with what is at least one is no smaller than it was
(`positive_mul`), and a positive sum is at least the least positive double (`positive_add`).
-/

set_option autoImplicit false

namespace GatewayClient.Double

open Float.Model Float.Model.UnpackedFloat

/-- The number is positive, or the positive infinity. -/
def Positive : UnpackedFloat → Prop
  | .finite .positive .. | .infinity .positive => True
  | _ => False

/-! ## Positive numbers -/

section Parts

variable {u v : UnpackedFloat}

theorem settle_notANumber : settle .notANumber = .notANumber := unpack_packedNaN

/-- Only positive numbers have a positive value. -/
theorem exists_of_value_pos (positive : 0 < value u) :
    ∃ n t pos, u = .finite .positive n t pos := by
  match u, positive with
  | .finite .positive n t pos, _ => exact ⟨n, t, pos, rfl⟩
  | .finite .negative _ _ _, positive =>
    exact absurd positive (not_lt.mpr (neg_nonpos.mpr scaled_nonneg))
  | .zero _, positive | .infinity _, positive | .notANumber, positive =>
    exact absurd positive (lt_irrefl 0)

/-- A number of positive value is positive. -/
theorem positive_of_value (positive : 0 < value u) : Positive u := by
  obtain ⟨n, t, pos, rfl⟩ := exists_of_value_pos positive
  trivial

/-- What is rounded to a double settles for it, or for an infinity. -/
theorem isNaN_of_rounds {x : ℚ} {s : Sign} (rounds : Rounds x s u) :
    (settle u).isNaN = false := by
  obtain ⟨n, t, rfl⟩ := rounds.parts
  have canonical := rounds.canonical
  unfold ofParts at canonical ⊢
  split
  next => rw [settle_zero]; rfl
  next positive =>
    rw [dif_neg positive] at canonical
    rw [settle_finite canonical]
    split <;> rfl

/-- What is no smaller than a positive double is not rounded to zero. -/
theorem positive_of_rounds {x b : ℚ} (rounds : Rounds x .positive u) (bound : IsBound b)
    (positive : 0 < b) (above : b ≤ x) : Positive (settle u) := by
  obtain ⟨m, e, few, least, low, rfl⟩ := bound
  obtain ⟨n, t, rfl⟩ := rounds.parts
  have large := positive.trans_le (rounds.ge m e few least above)
  have canonical := rounds.canonical
  rw [magnitude_ofParts] at large
  have some : n ≠ 0 := by
    rintro rfl
    rw [scaled_zero] at large
    exact absurd large (lt_irrefl 0)
  rw [ofParts, dif_neg some] at canonical ⊢
  rw [settle_finite canonical]
  split <;> trivial

/-- What is positive is the infinity, or has a mantissa. -/
theorem Positive.cases (positive : Positive u) :
    u = .infinity .positive ∨ ∃ m e pos, u = .finite .positive m e pos := by
  match u, positive with
  | .infinity .positive, _ => exact .inl rfl
  | .finite .positive m e pos, _ => exact .inr ⟨m, e, pos, rfl⟩

/-- A positive finite number has a positive value. -/
theorem Positive.value_pos (positive : Positive u) (finite : u.isFinite = true) : 0 < value u := by
  rcases positive.cases with rfl | ⟨m, e, pos, rfl⟩
  · cases finite
  · exact scaled_pos pos

/-- The product of a positive double and one that is at least one is positive. -/
theorem positive_mul (hu : Canonical u ∧ InRange u) (hv : Canonical v) (positive : Positive u)
    (least : v = .infinity .positive ∨ 1 ≤ value v) :
    Positive (settle (UnpackedFloat.mul .binary64 u v)) := by
  have infinite : Positive (settle (.infinity .positive)) := by
    rw [settle_infinity]
    trivial
  rcases positive.cases with rfl | ⟨m, e, pos, rfl⟩
  · rcases least with rfl | least
    · exact infinite
    · obtain ⟨n, t, pos', rfl⟩ := exists_of_value_pos (one_pos.trans_le least)
      exact infinite
  · rcases least with rfl | least
    · exact infinite
    · obtain ⟨n, t, pos', rfl⟩ := exists_of_value_pos (one_pos.trans_le least)
      obtain ⟨canonical, range⟩ := hu
      have bound : IsBound (scaled m e) := ⟨m, e, canonical.1, canonical.2.1, range, rfl⟩
      exact positive_of_rounds (rounds_mul canonical hv) bound (scaled_pos pos)
        (le_mul_of_one_le_right scaled_nonneg least)

/-- The finite doubles are multiples of the least positive one. -/
theorem exists_value_eq (h : IsDouble u) : ∃ k : Int, value u = k * scaled 1 (-1074) := by
  have magnitude : ∀ (m : Nat) (e : Int), -1074 ≤ e →
      scaled m e = ((m * 2 ^ (e + 1074).toNat : Nat) : Int) * scaled 1 (-1074) := by
    intro m e least
    have aligned : -1074 + ((e + 1074).toNat : Int) = e := by omega
    rw [← scaled_shift m aligned, scaled, scaled, Nat.cast_one, one_mul, Int.cast_natCast]
  cases u with
  | infinity _ | notANumber =>
    have finite := h.finite
    cases finite
  | zero _ => exact ⟨0, by simp⟩
  | finite sign m e _ =>
    have least : -1074 ≤ e := h.canonical.2.1
    cases sign with
    | positive => exact ⟨_, magnitude m e least⟩
    | negative =>
      refine ⟨-((m * 2 ^ (e + 1074).toNat : Nat) : Int), ?_⟩
      rw [Int.cast_neg, neg_mul, ← magnitude m e least]
      rfl

/-- A sum that is positive is positive after rounding. -/
theorem positive_add (hu : IsDouble u) (hv : IsDouble v) (positive : 0 < value u + value v) :
    Positive (settle (UnpackedFloat.add .binary64 u v)) := by
  rcases add_cases hu hv with ⟨double, same⟩ | ⟨sign, rounds, signs⟩
  · rw [double.settle_eq]
    exact positive_of_value (positive.trans_eq same.symm)
  · rw [signs positive.le, abs_of_pos positive] at rounds
    have unit : (0 : ℚ) < scaled 1 (-1074) := scaled_pos Nat.one_pos
    have bound : IsBound (scaled 1 (-1074)) :=
      ⟨1, -1074, by decide, by decide, by decide, rfl⟩
    refine positive_of_rounds rounds bound unit ?_
    obtain ⟨k, hk⟩ := exists_value_eq hu
    obtain ⟨l, hl⟩ := exists_value_eq hv
    rw [hk, hl, ← add_mul] at positive ⊢
    have whole : (0 : ℚ) < (k + l : Int) := by
      push_cast
      exact pos_of_mul_pos_left positive unit.le
    have one : (1 : ℚ) ≤ (k + l : Int) := by exact_mod_cast whole
    push_cast at one
    exact le_mul_of_one_le_left unit.le one

end Parts

/-! ## Orders with NaN -/

section Order

variable {x y : Float}

/-- Where an infinity is among two numbers and the first is not below the second, the second is not
above the first. -/
theorem compare_ne_none {u v : UnpackedFloat} (nu : u.isNaN = false) (nv : v.isNaN = false)
    (infinite : u.isFinite = false ∨ v.isFinite = false) (above : u.compare v ≠ some .lt) :
    (v.compare u).any (·.isLE) = true := by
  match u, v with
  | .notANumber, _ => cases nu
  | _, .notANumber => cases nv
  | .zero _, .zero _ | .zero _, .finite .. | .finite .., .zero _ | .finite .., .finite .. =>
    rcases infinite with finite | finite <;> cases finite
  | .infinity s, .infinity s' => cases s <;> cases s' <;> first | rfl | exact absurd rfl above
  | .infinity s, .zero _ | .infinity s, .finite .. =>
    cases s
    · exact absurd rfl above
    · rfl
  | .zero _, .infinity s | .finite .., .infinity s =>
    cases s
    · rfl
    · exact absurd rfl above

/-- Two doubles are in order one way or the other, unless one of them is NaN. -/
theorem le_of_not_lt (nx : x.isNaN = false) (ny : y.isNaN = false) (above : ¬ x < y) : y ≤ x := by
  by_cases finite : x.isFinite = true ∧ y.isFinite = true
  · rw [lt_iff finite.1 finite.2, not_lt] at above
    exact (le_iff finite.2 finite.1).mpr above
  · rw [lt_iff_compare] at above
    rw [le_iff_compare]
    refine compare_ne_none nx ny ?_ above
    rw [not_and_or, Bool.not_eq_true, Bool.not_eq_true] at finite
    exact finite

/-- Nothing compares with NaN. -/
theorem compare_of_isNaN {u v : UnpackedFloat} (undefined : u.isNaN = true ∨ v.isNaN = true) :
    u.compare v = none := by
  rcases undefined with undefined | undefined
  · cases u with
    | notANumber => rfl
    | zero | finite | infinity => cases undefined
  · cases v with
    | notANumber => cases u <;> rfl
    | zero | finite | infinity => cases undefined

/-- Nothing is below NaN, and NaN is below nothing. -/
theorem not_lt_of_isNaN (undefined : x.isNaN = true ∨ y.isNaN = true) : ¬ x < y := by
  have none : (parts x).compare (parts y) = none := compare_of_isNaN undefined
  simp [lt_iff_compare, none]

/-- Two doubles that are in order are not NaN. -/
theorem isNaN_of_le (le : x ≤ y) : x.isNaN = false ∧ y.isNaN = false := by
  rw [← Bool.not_eq_true, ← Bool.not_eq_true, ← not_or]
  intro undefined
  have none : (parts x).compare (parts y) = none := compare_of_isNaN undefined
  simp [le_iff_compare, none] at le

theorem isNaN_of_lt (lt : x < y) : x.isNaN = false ∧ y.isNaN = false := by
  rw [← Bool.not_eq_true, ← Bool.not_eq_true, ← not_or]
  exact fun undefined => not_lt_of_isNaN undefined lt

theorem le_of_lt (lt : x < y) : x ≤ y := by
  rw [lt_iff_compare] at lt
  rw [le_iff_compare, lt]
  rfl

theorem not_lt_self : ¬ x < x := by
  by_cases finite : x.isFinite = true
  · rw [lt_iff finite finite]
    exact lt_irrefl _
  · rw [lt_iff_compare]
    change ¬ (parts x).isFinite = true at finite
    generalize parts x = u at *
    cases u with
    | zero | finite => exact absurd rfl finite
    | notANumber => exact nofun
    | infinity s => cases s <;> exact nofun

/-! ## The lesser and the greater -/

/-- The lesser of two doubles is not above the second one. -/
theorem not_lt_least : ¬ y < TimeScale.least x y := by
  unfold TimeScale.least
  split
  next => exact not_lt_self
  next above => exact of_decide_eq_false (Bool.eq_false_iff.mpr above)

/-- The greater of two doubles is not above what neither of them is above. -/
theorem not_lt_greatest {z : Float} (hx : ¬ z < x) (hy : ¬ z < y) :
    ¬ z < TimeScale.greatest x y := by
  unfold TimeScale.greatest
  split <;> assumption

/-- The lesser of two doubles is NaN exactly if the first one is. -/
theorem isNaN_least : (TimeScale.least x y).isNaN = x.isNaN := by
  unfold TimeScale.least
  split
  next below =>
    obtain ⟨ny, nx⟩ := isNaN_of_lt (of_decide_eq_true below)
    rw [nx, ny]
  next => rfl

/-- The greater of two doubles is NaN exactly if the first one is. -/
theorem isNaN_greatest : (TimeScale.greatest x y).isNaN = x.isNaN := by
  unfold TimeScale.greatest
  split
  next above =>
    obtain ⟨nx, ny⟩ := isNaN_of_lt (of_decide_eq_true above)
    rw [nx, ny]
  next => rfl

/-- What is lifted to zero is not negative, unless it is NaN. -/
theorem zero_le_greatest_iff : 0.0 ≤ TimeScale.greatest x 0.0 ↔ x.isNaN = false := by
  constructor
  · intro natural
    exact isNaN_greatest.symm.trans (isNaN_of_le natural).2
  · intro number
    refine le_of_not_lt (isNaN_greatest.trans number) rfl ?_
    unfold TimeScale.greatest
    split
    next => exact not_lt_self
    next above => exact of_decide_eq_false (Bool.eq_false_iff.mpr above)

end Order

/-! ## Products -/

/-- The number is a zero. -/
def isZero (u : UnpackedFloat) : Bool := u.beq (.zero .positive)

/-- The number is not below zero. -/
def Unsigned (u : UnpackedFloat) : Prop := u.isNaN = true ∨ Nonneg u

/-- The number is not below one. -/
def Stretching (u : UnpackedFloat) : Prop :=
  u.isNaN = true ∨ u = .infinity .positive ∨ 1 ≤ value u

/-- What becomes of a number that is not below zero when it is multiplied by one that is not below
one: it is NaN only if a factor is, or if nothing is multiplied by an infinity. -/
structure Stretched (u v w : UnpackedFloat) : Prop where
  unsigned : Unsigned w
  isNaN : w.isNaN = (u.isNaN || v.isNaN || (v.isInf && isZero u))
  zero : w.isNaN = false → isZero w = isZero u

section Product

variable {u v : UnpackedFloat}

theorem Positive.isZero_eq (positive : Positive u) : isZero u = false := by
  rcases positive.cases with rfl | ⟨m, e, pos, rfl⟩ <;> rfl

theorem Positive.nonneg (positive : Positive u) : Nonneg u := by
  rcases positive.cases with rfl | ⟨m, e, pos, rfl⟩ <;> trivial

/-- What is not negative is not NaN. -/
theorem Nonneg.isNaN_eq (natural : Nonneg u) : u.isNaN = false := by
  cases u with
  | notANumber => cases natural
  | zero | finite | infinity => rfl

/-- What is not negative is zero or positive. -/
theorem Nonneg.cases (natural : Nonneg u) : (∃ s, u = .zero s) ∨ Positive u := by
  match u, natural with
  | .zero s, _ => exact .inl ⟨s, rfl⟩
  | .finite .positive .., _ | .infinity .positive, _ => exact .inr trivial

/-- A product with NaN is NaN. -/
theorem mul_of_isNaN (undefined : u.isNaN = true ∨ v.isNaN = true) :
    UnpackedFloat.mul .binary64 u v = .notANumber := by
  rcases undefined with undefined | undefined
  · cases u with
    | notANumber => rfl
    | zero | finite | infinity => cases undefined
  · cases v with
    | notANumber => cases u <;> rfl
    | zero | finite | infinity => cases undefined

/-- What is NaN where it may be is stretched. -/
theorem stretched_of_isNaN {w : UnpackedFloat} (same : w = .notANumber)
    (undefined : (u.isNaN || v.isNaN || (v.isInf && isZero u)) = true) :
    Stretched u v (settle w) := by
  rw [same, settle_notANumber]
  exact ⟨.inl rfl, undefined.symm, nofun⟩

/-- A number that is not below zero is stretched by a factor that is not below one. -/
theorem stretched_mul (hu : Canonical u ∧ InRange u) (hv : Canonical v)
    (unsigned : Unsigned u) (stretching : Stretching v) :
    Stretched u v (settle (UnpackedFloat.mul .binary64 u v)) := by
  rcases unsigned with undefined | natural
  · exact stretched_of_isNaN (mul_of_isNaN (.inl undefined)) (by simp [undefined])
  rcases stretching with undefined | least
  · exact stretched_of_isNaN (mul_of_isNaN (.inr undefined)) (by simp [undefined])
  rcases natural.cases with ⟨s, rfl⟩ | positive
  · rcases least with rfl | least
    · exact stretched_of_isNaN rfl rfl
    · obtain ⟨n, t, pos, rfl⟩ := exists_of_value_pos (one_pos.trans_le least)
      rw [UnpackedFloat.mul, settle_zero]
      exact ⟨.inr trivial, rfl, fun _ => rfl⟩
  · have product := positive_mul hu hv positive least
    have number : v.isNaN = false := by
      rcases least with rfl | least
      · rfl
      · exact (positive_of_value (one_pos.trans_le least)).nonneg.isNaN_eq
    refine ⟨.inr product.nonneg, ?_, fun _ => ?_⟩
    · rw [product.nonneg.isNaN_eq, positive.isZero_eq, natural.isNaN_eq, number, Bool.and_false]
      rfl
    · rw [product.isZero_eq, positive.isZero_eq]

end Product

/-! ## Products and differences of doubles -/

section Results

variable {x y : Float}

/-- A product with a positive finite factor is NaN exactly if the other factor is. -/
theorem unsigned_mul (hx : Unsigned (parts x)) (finite : y.isFinite = true)
    (positive : 0 < val y) :
    Unsigned (parts (x * y)) ∧ (x * y).isNaN = x.isNaN := by
  rcases hx with undefined | natural
  · have product : parts (x * y) = .notANumber := by
      rw [parts_mul, mul_of_isNaN (.inl undefined), settle_notANumber]
    have still : (x * y).isNaN = true := congrArg UnpackedFloat.isNaN product
    exact ⟨.inl still, still.trans undefined.symm⟩
  · have product := mul_nonneg_of_pos (nonneg_iff.mpr natural) finite positive
    have same : (x * y).isNaN = x.isNaN :=
      (isNaN_of_le product).2.trans natural.isNaN_eq.symm
    exact ⟨.inr (nonneg_iff.mp product), same⟩

/-- What is left of a double after a finite one is NaN exactly if the first one is. -/
theorem isNaN_sub (finite : y.isFinite = true) : (x - y).isNaN = x.isNaN := by
  show (parts (x - y)).isNaN = (parts x).isNaN
  have hy : IsDouble (parts y).neg := (isDouble_parts finite).neg
  rw [parts_sub, sub_eq_add]
  by_cases fx : x.isFinite = true
  · have hx : IsDouble (parts x) := isDouble_parts fx
    have number : ∀ {u : UnpackedFloat}, IsDouble u → u.isNaN = false := by
      intro u hu
      cases u with
      | notANumber | infinity => exact nomatch hu.finite
      | zero | finite => rfl
    rw [number hx]
    rcases add_cases hx hy with ⟨double, -⟩ | ⟨sign, rounds, -⟩
    · rw [double.settle_eq]
      exact number double
    · exact isNaN_of_rounds rounds
  · change ¬ (parts x).isFinite = true at fx
    generalize parts x = u at *
    generalize (parts y).neg = v at *
    cases u with
    | zero | finite => exact absurd rfl fx
    | notANumber => exact congrArg UnpackedFloat.isNaN settle_notANumber
    | infinity s =>
      cases v with
      | notANumber | infinity => exact nomatch hy.finite
      | zero | finite => exact congrArg UnpackedFloat.isNaN (settle_infinity s)

end Results
end GatewayClient.Double
