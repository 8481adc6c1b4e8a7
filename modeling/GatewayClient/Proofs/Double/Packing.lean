import GatewayClient.Proofs.Double.Rounding

/-!
# Packing doubles

A double is kept as 64 bits. Taking it apart gives a number of the form of doubles
(`canonical_unpack`), and putting a number of that form together loses nothing, unless its exponent
is too large for a double: then it becomes infinite (`unpack_pack_ofParts`).
-/

set_option autoImplicit false

namespace GatewayClient.Double

open Float.Model Float.Model.UnpackedFloat

/-- The greatest exponent of a double. -/
def greatestExponent : Int := 971

section Components

/-- The digit that is not kept is a one. -/
theorem toNat_implicit (m : BitVec 52) : (1#1 ++ m).toNat = 2 ^ 52 + m.toNat := by
  rw [BitVec.toNat_append, ← Nat.shiftLeft_add_eq_or_of_lt m.isLt]
  rfl

/-- What 64 bits say. -/
theorem unpack_eq (b : BitVec Format.binary64.numBits) : UnpackedFloat.unpack .binary64 b =
    if (unpackExponent b).toNat = 2047 then
      if (unpackMantissa b).toNat = 0 then .infinity (Sign.ofBitVec (unpackSign b)) else .notANumber
    else if (unpackExponent b).toNat = 0 then
      ofParts (Sign.ofBitVec (unpackSign b)) (unpackMantissa b).toNat (-1074)
    else
      ofParts (Sign.ofBitVec (unpackSign b)) (2 ^ 52 + (unpackMantissa b).toNat)
        ((unpackExponent b).toNat - 1075) := by
  have full : unpackExponent b = -1#_ ↔ (unpackExponent b).toNat = 2047 := by
    rw [← BitVec.toNat_inj]
    rfl
  have least : unpackExponent b = 0#_ ↔ (unpackExponent b).toNat = 0 := by
    rw [← BitVec.toNat_inj]
    rfl
  have none : unpackMantissa b = 0#_ ↔ (unpackMantissa b).toNat = 0 := by
    rw [← BitVec.toNat_inj]
    rfl
  unfold UnpackedFloat.unpack
  simp only [full, least]
  split
  next => simp only [none]
  next =>
    split
    next zero =>
      rw [zero]
      split
      next empty => rw [none.mp empty]; rfl
      next some => rw [ofParts, dif_neg (mt none.mpr some)]; rfl
    next =>
      rw [ofParts, dif_neg (by omega)]
      congr 1
      exact toNat_implicit _

/-- What 64 bits say that are put together. -/
theorem unpack_packComponents (s : Sign) (e : BitVec Format.binary64.exponentBits)
    (m : BitVec Format.binary64.mantissaBitsWithoutImplicit) :
    UnpackedFloat.unpack .binary64 (packComponents .binary64 s e m) =
      if e.toNat = 2047 then if m.toNat = 0 then .infinity s else .notANumber
      else if e.toNat = 0 then ofParts s m.toNat (-1074)
      else ofParts s (2 ^ 52 + m.toNat) (e.toNat - 1075) := by
  rw [unpack_eq, unpackExponent_packComponents, unpackMantissa_packComponents,
    unpackSign_packComponents, Sign.ofBitVec_toBitVec]

end Components

/-- The exponent of a number is not too large for a double. -/
def InRange : UnpackedFloat → Prop
  | .finite _ _ e _ => e ≤ greatestExponent
  | _ => True

/-- A number whose exponent is low enough is in range. -/
theorem inRange_ofParts {s : Sign} {m : Nat} {e : Int} (low : e ≤ greatestExponent) :
    InRange (ofParts s m e) := by
  unfold ofParts
  split
  next => trivial
  next => exact low

/-- Taking a double apart gives a number of the form of doubles. -/
theorem canonical_unpack (b : BitVec Format.binary64.numBits) :
    Canonical (UnpackedFloat.unpack .binary64 b) ∧ InRange (UnpackedFloat.unpack .binary64 b) := by
  have digits : (unpackMantissa b).toNat < 2 ^ 52 := (unpackMantissa b).isLt
  have exponents : (unpackExponent b).toNat < 2048 := (unpackExponent b).isLt
  rw [unpack_eq]
  split
  next => split <;> exact ⟨trivial, trivial⟩
  next =>
    split
    next => exact ⟨canonical_ofParts (by omega) (by omega) (.inr rfl), inRange_ofParts (by decide)⟩
    next =>
      exact ⟨canonical_ofParts (by omega) (by omega) (.inl (by omega)),
        inRange_ofParts (by unfold greatestExponent; omega)⟩

section Parts

variable {m : Nat} {e : Int}

/-- An infinity is kept as one. -/
theorem unpack_packedInfinity (s : Sign) :
    UnpackedFloat.unpack .binary64 (packedInfinity .binary64 s) = .infinity s := by
  rw [packedInfinity, unpack_packComponents]
  rfl

/-- A number of 53 digits is kept without the first one. -/
theorem unpack_normal (s : Sign) (few : m < 2 ^ 53) (normal : 2 ^ 52 ≤ m) (least : -1074 ≤ e)
    (small : e ≤ greatestExponent) :
    UnpackedFloat.unpack .binary64 (packComponents .binary64 s
      (BitVec.ofNat _ (e + 1023 + 52).toNat) (BitVec.ofNat _ m)) = ofParts s m e := by
  unfold greatestExponent at small
  have exponent : (BitVec.ofNat Format.binary64.exponentBits (e + 1023 + 52).toNat).toNat =
      (e + 1023 + 52).toNat := Nat.mod_eq_of_lt (by show _ < 2 ^ 11; omega)
  have mantissa : (BitVec.ofNat Format.binary64.mantissaBitsWithoutImplicit m).toNat =
      m - 2 ^ 52 := by
    show m % 2 ^ 52 = _
    omega
  have scale : ((e + 1023 + 52).toNat : Int) - 1075 = e := by omega
  rw [unpack_packComponents, exponent, mantissa, if_neg (by omega), if_neg (by omega),
    Nat.add_sub_cancel' normal, scale]

/-- A shorter number is kept as it is. -/
theorem unpack_subnormal (s : Sign) (short : m < 2 ^ 52) :
    UnpackedFloat.unpack .binary64 (packComponents .binary64 s (BitVec.ofNat _ 0)
      (BitVec.ofNat _ m)) = ofParts s m (-1074) := by
  have mantissa : (BitVec.ofNat Format.binary64.mantissaBitsWithoutImplicit m).toNat = m :=
    Nat.mod_eq_of_lt short
  have exponent : (BitVec.ofNat Format.binary64.exponentBits 0).toNat = 0 := rfl
  rw [unpack_packComponents, exponent, mantissa, if_neg (by decide), if_pos rfl]

/-- Putting a number together and taking it apart again loses nothing, unless its exponent is too
large. -/
theorem unpack_pack_ofParts (s : Sign) (few : m < 2 ^ 53) (least : -1074 ≤ e)
    (full : 2 ^ 52 ≤ m ∨ e = -1074) :
    UnpackedFloat.unpack .binary64 (UnpackedFloat.pack .binary64 (ofParts s m e)) =
      if e ≤ greatestExponent then ofParts s m e else .infinity s := by
  by_cases zero : m = 0
  · have small : e ≤ greatestExponent := by unfold greatestExponent; omega
    have same : ofParts s m e = .zero s := dif_pos zero
    rw [if_pos small, same]
    exact unpack_packedZero
  · have parts : ofParts s m e = .finite s m e (Nat.pos_of_ne_zero zero) := dif_neg zero
    have bits : (Format.binary64.exponentBias : Int) = 1023 := rfl
    have digits : (Format.binary64.mantissaBitsWithoutImplicit : Int) = 52 := rfl
    have log : m.log2 + 1 = Format.binary64.mantissaBits ↔ 2 ^ 52 ≤ m := by
      have enough : 52 ≤ m.log2 ↔ 2 ^ 52 ≤ m := Nat.le_log2 zero
      have under : m.log2 < 53 := (Nat.log2_lt zero).mpr few
      rw [← enough]
      show m.log2 + 1 = 53 ↔ _
      omega
    rw [parts, UnpackedFloat.pack]
    dsimp only
    rw [bits, digits]
    simp only [log]
    -- Beyond the greatest exponent the bits are those of an infinity.
    split
    next large =>
      have large : 2048 ≤ (e + 1023 + 52).toNat + 1 := large
      have beyond : ¬ e ≤ greatestExponent := by unfold greatestExponent; omega
      rw [if_neg beyond]
      exact unpack_packedInfinity s
    next fits =>
      have fits : ¬ 2048 ≤ (e + 1023 + 52).toNat + 1 := fits
      have small : e ≤ greatestExponent := by unfold greatestExponent; omega
      rw [if_pos small, ← parts]
      split
      next normal => exact unpack_normal s few normal least small
      next short =>
        rw [full.resolve_left short]
        exact unpack_subnormal s (Nat.not_le.mp short)

end Parts

end GatewayClient.Double
