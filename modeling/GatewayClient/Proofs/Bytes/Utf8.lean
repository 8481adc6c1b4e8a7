import GatewayClient.Bytes.Utf8

/-!
# What is written in UTF-8 can be read

The bytes of a character take reading from one character to the next, through as many states as the
character has bytes (`parts_utf8EncodeChar`).

**A text is read back from its bytes** (`decode?_ofText`), whatever is done about surrogates: no
character of a text is one.
-/

set_option autoImplicit false

namespace GatewayClient.Bytes

namespace Utf8

variable {surrogates : Surrogates} {bits low high n : Nat}

section Steps

/-- A byte below 128 is a character. -/
theorem parts_one (small : n < 0x80) (rest : Bytes) :
    parts surrogates .start (UInt8.ofNat n :: rest) =
      some (.char (Char.ofNat n)) :: parts surrogates .start rest := by
  have same := UInt8.toNat_ofNat_of_lt' (show n < 256 by omega)
  simp [parts, parts.fromStart, State.first, same, small]

/-- The first byte of two leaves one owed. -/
theorem parts_two (least : 0xC2 ≤ n) (most : n < 0xE0) (rest : Bytes) :
    parts surrogates .start (UInt8.ofNat n :: rest) =
      parts surrogates (.inside 0 (n - 0xC0) 0x80 0xBF) rest := by
  have same := UInt8.toNat_ofNat_of_lt' (show n < 256 by omega)
  have wide : ¬ n < 0x80 := by omega
  have first : ¬ n < 0xC2 := by omega
  simp [parts, parts.fromStart, State.first, same, wide, first, most]

/-- The first byte of three leaves two owed. The next one depends on it. -/
theorem parts_three (least : 0xE0 ≤ n) (most : n < 0xF0) (rest : Bytes) :
    parts surrogates .start (UInt8.ofNat n :: rest) =
      parts surrogates (.inside 1 (n - 0xE0) (if n == 0xE0 then 0xA0 else 0x80)
        (if n == 0xED && surrogates == .malformed then 0x9F else 0xBF)) rest := by
  have same := UInt8.toNat_ofNat_of_lt' (show n < 256 by omega)
  have wide : ¬ n < 0x80 := by omega
  have first : ¬ n < 0xC2 := by omega
  have longer : ¬ n < 0xE0 := by omega
  simp [parts, parts.fromStart, State.first, same, wide, first, longer, most]

/-- The first byte of four leaves three owed. The next one depends on it. -/
theorem parts_four (least : 0xF0 ≤ n) (most : n < 0xF5) (rest : Bytes) :
    parts surrogates .start (UInt8.ofNat n :: rest) =
      parts surrogates (.inside 2 (n - 0xF0) (if n == 0xF0 then 0x90 else 0x80)
        (if n == 0xF4 then 0x8F else 0xBF)) rest := by
  have same := UInt8.toNat_ofNat_of_lt' (show n < 256 by omega)
  have wide : ¬ n < 0x80 := by omega
  have first : ¬ n < 0xC2 := by omega
  have longer : ¬ n < 0xE0 := by omega
  have longest : ¬ n < 0xF0 := by omega
  simp [parts, parts.fromStart, State.first, same, wide, first, longer, longest, most]

/-- A byte in its bounds pays for one that is owed. -/
theorem parts_inside {owed : Nat} (least : low ≤ n) (most : n ≤ high) (byte : n < 256)
    (rest : Bytes) :
    parts surrogates (.inside (owed + 1) bits low high) (UInt8.ofNat n :: rest) =
      parts surrogates (.inside owed (bits * 64 + (n - 0x80)) 0x80 0xBF) rest := by
  simp [parts, UInt8.toNat_ofNat_of_lt' byte, least, most]

/-- The last byte that is owed ends a character. -/
theorem parts_last (least : low ≤ n) (most : n ≤ high) (byte : n < 256) (rest : Bytes) :
    parts surrogates (.inside 0 bits low high) (UInt8.ofNat n :: rest) =
      some (.ofCode (bits * 64 + (n - 0x80))) :: parts surrogates .start rest := by
  simp [parts, UInt8.toNat_ofNat_of_lt' byte, least, most]

end Steps

/-- The bytes of a character are read as the character. -/
theorem parts_utf8EncodeChar (c : Char) (rest : Bytes) :
    parts surrogates .start (String.utf8EncodeChar c ++ rest) =
      some (.char c) :: parts surrogates .start rest := by
  have valid : c.toNat < 0xD800 ∨ 0xDFFF < c.toNat ∧ c.toNat < 0x110000 := c.valid
  have scalar : CodePoint.ofCode c.toNat = .char c := CodePoint.ofCode_code (.char c)
  have value : c.val.toNat = c.toNat := rfl
  unfold String.utf8EncodeChar
  simp only [value]
  -- One case for each length of the encoding. The bounds of the first bytes are what makes them
  -- differ.
  split
  next one =>
    rw [List.singleton_append, parts_one (by omega), Char.ofNat_toNat]
  next =>
    split
    next two =>
      rw [List.cons_append, parts_two (by omega) (by omega), List.singleton_append,
        parts_last (by omega) (by omega) (by omega)]
      have sum : (c.toNat / 64 % 0x20 + 0xC0 - 0xC0) * 64 + (c.toNat % 0x40 + 0x80 - 0x80) =
          c.toNat := by omega
      rw [sum, scalar]
    next =>
      split
      next three =>
        rw [List.cons_append, parts_three (by omega) (by omega), List.cons_append,
          parts_inside _ _ (by omega), List.singleton_append,
          parts_last (by omega) (by omega) (by omega)]
        have sum : ((c.toNat / 4096 % 0x10 + 0xE0 - 0xE0) * 64 +
            (c.toNat / 64 % 0x40 + 0x80 - 0x80)) * 64 + (c.toNat % 0x40 + 0x80 - 0x80) =
            c.toNat := by omega
        rw [sum, scalar]
        · simp only [beq_iff_eq]
          split <;> omega
        · simp only [Bool.and_eq_true, beq_iff_eq]
          split <;> omega
      next =>
        rw [List.cons_append, parts_four (by omega) (by omega), List.cons_append,
          parts_inside _ _ (by omega), List.cons_append,
          parts_inside (by omega) (by omega) (by omega), List.singleton_append,
          parts_last (by omega) (by omega) (by omega)]
        have sum : (((c.toNat / 262144 % 0x08 + 0xF0 - 0xF0) * 64 +
            (c.toNat / 4096 % 0x40 + 0x80 - 0x80)) * 64 +
            (c.toNat / 64 % 0x40 + 0x80 - 0x80)) * 64 + (c.toNat % 0x40 + 0x80 - 0x80) =
            c.toNat := by omega
        rw [sum, scalar]
        · simp only [beq_iff_eq]
          split <;> omega
        · simp only [beq_iff_eq]
          split <;> omega

/-- The bytes of a list of characters are read as the characters. -/
theorem parts_flatMap (text : List Char) :
    parts surrogates .start (text.flatMap String.utf8EncodeChar) =
      (text.map CodePoint.char).map some := by
  induction text with
  | nil => rfl
  | cons c text ih => rw [List.flatMap_cons, parts_utf8EncodeChar, ih, List.map_cons, List.map_cons]

/-- Parts that are all characters make a text. -/
theorem whole?_map_some (points : List CodePoint) : whole? (points.map some) = some points := by
  induction points with
  | nil => rfl
  | cons p points ih => rw [List.map_cons, whole?, ih, Option.map_some]

/-- A text is read back from its bytes. -/
theorem decode?_ofText (surrogates : Surrogates) (s : String) :
    decode? surrogates (ofText s) = some (s : Text) := by
  rw [decode?, ofText, parts_flatMap, whole?_map_some]
  rfl

end Utf8
end GatewayClient.Bytes
