import GatewayClient.Proofs.Double.Whole
import GatewayClient.Proofs.Schema.Decoding

/-!
# What numbers and texts fit

A schema of naturals lets pass the numbers whose value is a natural number, however they are written
(`Schema.natural_fits_iff`): a double without fractional part is one of them. A schema of digits
lets pass a run of digits, and also one with a line feed behind it (`Schema.digitText_fits_iff`).
-/

set_option autoImplicit false

namespace GatewayClient

/-- The value is a natural number. It may be a double nevertheless. -/
def Number.IsNatural : Number → Prop
  | .int n => 0 ≤ n
  | .real x => x.isFinite = true ∧ ∃ n : ℕ, Double.val x = n

/-- The text is a run of one or more ASCII digits, and nothing else. -/
def Text.IsDigits (t : Text) : Prop := t ≠ "" ∧ ∀ p ∈ t.points, Schema.isDigit p = true

namespace Schema

/-- What is asked of a value without parts: its kind, and the bounds of its kind. -/
theorem fits_leaf_iff {j : Json} {kind : JsonKind} {atLeast : Option Int}
    {nonEmpty digits : Bool} :
    (Schema.mk [kind] [] [] none none atLeast nonEmpty digits).Fits j ↔
      kind.admits j = true ∧ (ownMessages [] atLeast nonEmpty digits j).2 = [] := by
  have missing : (ownMessages [] atLeast nonEmpty digits j).1 = [] := by cases j <;> rfl
  unfold Fits violations
  simp only [missing, fieldViolations, otherViolations, itemViolations, admits_singleton,
    List.append_eq_nil_iff, List.map_eq_nil_iff, ite_eq_left_iff, reduceCtorEq, imp_false,
    Bool.not_eq_true, Bool.not_eq_false]
  tauto

/-- A double is not below zero exactly if its value is not negative. -/
theorem isBelow_real_iff {x : Float} (finite : x.isFinite = true) :
    isBelow 0 (.real x) = false ↔ 0 ≤ Double.val x := by
  have zero : Double.val (Float.ofInt 0) = 0 := rfl
  rw [isBelow, decide_eq_false_iff_not, Double.lt_iff finite rfl, zero, not_lt]

/-- Naturals are what is required of a natural. -/
theorem natural_fits_iff {j : Json} : natural.Fits j ↔ ∃ n, j = .num n ∧ n.IsNatural := by
  rw [natural, fits_leaf_iff]
  cases j with
  | null | bool _ | str _ | arr _ | obj _ => simp [JsonKind.admits]
  | num n =>
    simp only [ownMessages, Json.num.injEq, exists_eq_left', ite_eq_right_iff, reduceCtorEq,
      imp_false, Bool.not_eq_true]
    cases n with
    | int n => simp [JsonKind.admits, isBelow, Number.IsNatural]
    | real x =>
      rw [JsonKind.admits, Double.isWhole_iff, Number.IsNatural, and_assoc]
      refine and_congr_right fun finite => ?_
      rw [isBelow_real_iff finite]
      constructor
      · rintro ⟨⟨k, whole⟩, positive⟩
        rw [whole] at positive
        obtain ⟨n, rfl⟩ := Int.eq_ofNat_of_zero_le (Int.cast_nonneg_iff.mp positive)
        exact ⟨n, whole⟩
      · rintro ⟨n, whole⟩
        exact ⟨⟨n, whole⟩, whole ▸ Nat.cast_nonneg n⟩

/-- A line of digits is a run of digits, with or without a line feed behind it. -/
theorem isDigitLine_iff {t : Text} : isDigitLine t = true ↔
    Text.IsDigits t ∨ ∃ digits, Text.IsDigits digits ∧ t = digits ++ ("\n" : Text) := by
  unfold isDigitLine
  simp only [Bool.and_eq_true, Bool.not_eq_true', Bool.or_eq_true, beq_iff_eq,
    List.isEmpty_eq_false_iff]
  constructor
  · rintro ⟨some, rest⟩
    have split := List.takeWhile_append_dropWhile (p := isDigit) (l := t.points)
    have run : Text.IsDigits ⟨t.points.takeWhile isDigit⟩ :=
      ⟨fun empty => some (congrArg Text.points empty), fun _ => List.mem_takeWhile_imp⟩
    rcases rest with none | feed
    · left
      rw [none, List.append_nil] at split
      rwa [split] at run
    · right
      refine ⟨_, run, Text.ext ?_⟩
      rw [feed] at split
      exact split.symm
  · have nonempty {digits : Text} (some : digits ≠ "") : digits.points ≠ [] :=
      fun empty => some (Text.ext empty)
    rintro (⟨some, digits⟩ | ⟨run, ⟨some, digits⟩, rfl⟩)
    · rw [List.takeWhile_eq_self_iff.mpr digits, List.dropWhile_eq_nil_iff.mpr digits]
      exact ⟨nonempty some, .inl rfl⟩
    · rw [Text.append_points, List.takeWhile_append_of_pos digits,
        List.dropWhile_append_of_pos digits]
      exact ⟨mt List.append_eq_nil_iff.mp fun h => nonempty some h.1, .inr (by decide)⟩

/-- Lines of digits are what is required of a text of digits. -/
theorem digitText_fits_iff {j : Json} : digitText.Fits j ↔ ∃ t, j = .str t ∧
    (Text.IsDigits t ∨ ∃ digits, Text.IsDigits digits ∧ t = digits ++ ("\n" : Text)) := by
  rw [digitText, fits_leaf_iff]
  cases j with
  | null | bool _ | num _ | arr _ | obj _ => simp [JsonKind.admits]
  | str t =>
    simp only [← isDigitLine_iff, Json.str.injEq, exists_eq_left']
    simp [JsonKind.admits, ownMessages]

end Schema
end GatewayClient
