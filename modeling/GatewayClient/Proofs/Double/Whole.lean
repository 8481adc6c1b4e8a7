import GatewayClient.Decimal.Binary64
import GatewayClient.Proofs.Double.Arithmetic

/-!
# Whole doubles

A double that is taken apart by its bits has the value that the order of doubles goes by
(`parts_eq`). So a double has no fractional part exactly if it is finite and its value is an integer
(`isWhole_iff`).
-/

set_option autoImplicit false

namespace GatewayClient.Double

open Float.Model Float.Model.UnpackedFloat
open GatewayClient.Decimal (Binary64 isWhole ratioOf)

/-- The sign of a number. -/
def signOf (negative : Bool) : Sign := if negative then .negative else .positive

section Bits

variable (b : BitVec Format.binary64.numBits)

/-- The mantissa is kept in the last 52 bits. -/
theorem toNat_unpackMantissa : (unpackMantissa b).toNat = b.toNat % 2 ^ 52 := by
  unfold unpackMantissa
  rw [BitVec.toNat_cast, BitVec.extractLsb_toNat]
  rfl

/-- The exponent is kept in the eleven bits before them. -/
theorem toNat_unpackExponent : (unpackExponent b).toNat = b.toNat / 2 ^ 52 % 2048 := by
  unfold unpackExponent
  rw [BitVec.toNat_cast, BitVec.extractLsb_toNat, Nat.shiftRight_eq_div_pow]
  rfl

/-- The sign is kept in the first bit. -/
theorem ofBitVec_unpackSign :
    Sign.ofBitVec (unpackSign b) = signOf (b.toNat / 2 ^ 63 == 1) := by
  have bound : b.toNat < 2 ^ 64 := b.isLt
  have first : (unpackSign b).toNat = b.toNat / 2 ^ 63 := by
    unfold unpackSign
    rw [BitVec.toNat_cast, BitVec.extractLsb_toNat, Nat.shiftRight_eq_div_pow]
    show b.toNat / 2 ^ 63 % 2 = _
    omega
  have none : unpackSign b = 0#1 ↔ b.toNat / 2 ^ 63 = 0 := by
    rw [← BitVec.toNat_inj, first]
    rfl
  unfold Sign.ofBitVec signOf
  simp only [none, beq_iff_eq]
  split
  next zero => rw [zero]; rfl
  next some => rw [if_pos (by omega)]

end Bits

/-- A double taken apart by its bits is the one that arithmetic goes by. -/
theorem parts_eq (x : Float) : parts x = match Binary64.ofFloat x with
    | .finite negative m e => ofParts (signOf negative) m e
    | .infinite negative => .infinity (signOf negative)
    | .notANumber => .notANumber := by
  have unpacked : parts x = UnpackedFloat.unpack .binary64 x.toBits.toBitVec := rfl
  have bits : x.toBits.toBitVec.toNat = x.toBits.toNat := rfl
  rw [unpacked, unpack_eq, ofBitVec_unpackSign, toNat_unpackExponent, toNat_unpackMantissa, bits]
  unfold Binary64.ofFloat
  simp only [Nat.pow_eq, beq_iff_eq]
  split
  next => split <;> rfl
  next =>
    split
    next => rfl
    next some =>
      have scale : ((x.toBits.toNat / 2 ^ 52 % 2048 : Nat) : Int) - 1075 =
          Binary64.leastExponent + (x.toBits.toNat / 2 ^ 52 % 2048 - 1 : Nat) := by
        unfold Binary64.leastExponent
        omega
      rw [scale]

/-- A scaled number is a quotient of whole numbers. -/
theorem scaled_eq_div (m : Nat) (e : Int) :
    0 < (ratioOf m e).2 ∧ scaled m e = (ratioOf m e).1 / (ratioOf m e).2 := by
  unfold ratioOf scaled
  split
  next up =>
    refine ⟨Nat.one_pos, ?_⟩
    obtain ⟨k, rfl⟩ := Int.eq_ofNat_of_zero_le up
    simp
  next down =>
    refine ⟨Nat.pow_pos Nat.two_pos, ?_⟩
    obtain ⟨k, rfl⟩ : ∃ k : Nat, e = -k := ⟨(-e).toNat, by omega⟩
    simp [div_eq_mul_inv]

/-- The value of a number that is put together. -/
theorem value_ofParts (negative : Bool) (m : Nat) (e : Int) :
    value (ofParts (signOf negative) m e) = if negative then -scaled m e else scaled m e := by
  unfold ofParts
  split
  next none => cases negative <;> simp [none, scaled_zero]
  next => cases negative <;> rfl

theorem isFinite_ofParts (s : Sign) (m : Nat) (e : Int) : (ofParts s m e).isFinite = true := by
  unfold ofParts
  split <;> rfl

/-- A scaled number is an integer exactly if its quotient leaves no remainder. -/
theorem exists_scaled_iff (m : Nat) (e : Int) :
    (∃ k : Int, scaled m e = k) ↔ (ratioOf m e).1 % (ratioOf m e).2 = 0 := by
  obtain ⟨positive, eq⟩ := scaled_eq_div m e
  rw [eq, ← Nat.dvd_iff_mod_eq_zero]
  generalize (ratioOf m e).1 = n at *
  generalize (ratioOf m e).2 = d at *
  have nonzero : (d : ℚ) ≠ 0 := by exact_mod_cast positive.ne'
  constructor
  · rintro ⟨k, quotient⟩
    rw [div_eq_iff nonzero] at quotient
    have product : (n : Int) = k * d := by exact_mod_cast quotient
    exact Int.natCast_dvd_natCast.mp ⟨k, by rw [product, mul_comm]⟩
  · rintro ⟨k, rfl⟩
    exact ⟨k, by push_cast; field_simp⟩

/-- A double has no fractional part exactly if it is finite and its value is an integer. -/
theorem isWhole_iff {x : Float} :
    isWhole x = true ↔ x.isFinite = true ∧ ∃ k : Int, val x = k := by
  have finite : x.isFinite = (parts x).isFinite := rfl
  rw [finite, val, parts_eq, isWhole]
  generalize Binary64.ofFloat x = taken
  cases taken with
  | infinite negative | notANumber =>
    constructor
    · intro whole
      cases whole
    · rintro ⟨finite, -⟩
      cases finite
  | finite negative m e =>
    dsimp only
    rw [beq_iff_eq, ← exists_scaled_iff, value_ofParts, isFinite_ofParts]
    cases negative with
    | false => simp
    | true =>
      simp only [if_true, true_and, neg_eq_iff_eq_neg]
      constructor
      · rintro ⟨k, eq⟩
        exact ⟨-k, by simp [eq]⟩
      · rintro ⟨k, eq⟩
        exact ⟨-k, by simp [eq]⟩

end GatewayClient.Double
