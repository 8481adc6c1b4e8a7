import GatewayClient.Http.Outcome
import GatewayClient.Proofs.Bytes.Utf8
import GatewayClient.Proofs.Json.Grammar

/-!
# A JSON text in UTF-8 is taken for UTF-8

The encoding of bytes without byte order mark is seen from the zero bytes among the first ones. The
first character of a JSON text is an ASCII character, and neither it nor the second one is the zero
character (`WritesText.begins`). **So what is read of the bytes of a text is what is read of the
text** (`ofBytes_ofText`).
-/

set_option autoImplicit false

namespace GatewayClient

/-! ## Bytes of characters -/

namespace Bytes

variable {c : Char}

/-- An ASCII character is one byte. -/
theorem utf8EncodeChar_ascii (ascii : c.toNat < 0x80) :
    String.utf8EncodeChar c = [UInt8.ofNat c.toNat] := by
  have value : c.val.toNat = c.toNat := rfl
  simp only [String.utf8EncodeChar, value]
  rw [if_pos (by omega)]

/-- Only the zero character has a zero byte. -/
theorem utf8EncodeChar_begins (filled : c ≠ '\x00') :
    ∃ b more, String.utf8EncodeChar c = b :: more ∧ b ≠ 0 := by
  have value : c.val.toNat = c.toNat := rfl
  have positive : c.toNat ≠ 0 := fun zero => filled (Char.toNat_inj.mp zero)
  have nonzero : ∀ n, 0 < n → n < 256 → UInt8.ofNat n ≠ 0 := by
    intro n least most zero
    have same := congrArg UInt8.toNat zero
    rw [UInt8.toNat_ofNat_of_lt' most] at same
    exact absurd same (Nat.ne_of_gt least)
  unfold String.utf8EncodeChar
  simp only [value]
  split
  next => exact ⟨_, _, rfl, nonzero _ (by omega) (by omega)⟩
  next =>
    split
    next => exact ⟨_, _, rfl, nonzero _ (by omega) (by omega)⟩
    next =>
      split <;> exact ⟨_, _, rfl, nonzero _ (by omega) (by omega)⟩

end Bytes

namespace Json

open Bytes

/-! ## How texts begin -/

section Begins

variable {p : CodePoint} {ps gap : List CodePoint} {v : Json}

/-- The character is the zero character. -/
def isZero (p : CodePoint) : Bool := p == .char '\x00'

/-- A text without the zero character does not begin with it. -/
theorem apart_isZero_of_not_mem (clean : .char '\x00' ∉ ps) : Apart isZero ps := by
  intro p mem
  refine beq_eq_false_iff_ne.mpr ?_
  rintro rfl
  exact clean (List.mem_of_mem_head? mem)

theorem isZero_of_isGap (blank : isGap p = true) : isZero p = false := by
  refine beq_eq_false_iff_ne.mpr ?_
  rintro rfl
  cases blank

theorem isZero_of_opensValue {c : Char} (opens : opensValue c = true) :
    isZero (.char c) = false :=
  beq_eq_false_iff_ne.mpr fun same => (of_opensValue opens).2.2.1 (CodePoint.char.inj same)

theorem IsGap.apart_isZero (blank : IsGap gap) : Apart isZero gap := fun p mem =>
  isZero_of_isGap (blank p (List.mem_of_mem_head? mem))

/-- The second character of a value is not the zero character. -/
theorem Writes.second (h : Writes ps v) : Apart isZero ps.tail := by
  cases h with
  | @scalar cs _ read =>
    obtain ⟨spelled, -⟩ := scalar_append read
    have clean : .char '\x00' ∉ cs.map CodePoint.char := mt char_mem_map.mp (zero_not_mem spelled)
    exact apart_isZero_of_not_mem (mt List.mem_of_mem_tail clean)
  | str read => exact apart_isZero_of_not_mem (string_append read).1
  | noItems blank | noMembers blank => exact blank.apart_isZero.append (apart_cons.mpr rfl)
  | arr blank inner =>
    obtain ⟨c, more, rfl, opens⟩ := inner.head
    exact blank.apart_isZero.append (apart_cons.mpr (isZero_of_opensValue opens))
  | obj blank inner =>
    obtain ⟨more, rfl⟩ := inner.head
    exact blank.apart_isZero.append (apart_cons.mpr rfl)

/-- A text begins with an ASCII character, and has no zero character in its first two. -/
theorem WritesText.begins (h : WritesText ps v) :
    ∃ c more, ps = .char c :: more ∧ c.toNat < 0x80 ∧ c ≠ '\x00' ∧ Apart isZero more := by
  obtain ⟨before, used, after, rfl, blank, blank_after, writes⟩ := h
  obtain ⟨c, more, rfl, opens⟩ := writes.head
  obtain ⟨-, -, filled, ascii⟩ := of_opensValue opens
  cases before with
  | nil =>
    have second : Apart isZero more := writes.second
    exact ⟨c, more ++ after, rfl, ascii, filled, second.append blank_after.apart_isZero⟩
  | cons b before =>
    obtain ⟨first, others⟩ := List.forall_mem_cons.mp blank
    have second : Apart isZero (before ++ (.char c :: more ++ after)) :=
      (IsGap.apart_isZero others).append (apart_cons.mpr (isZero_of_opensValue opens))
    simp only [isGap, Bool.or_eq_true, beq_iff_eq] at first
    rcases first with ((rfl | rfl) | rfl) | rfl
    all_goals exact ⟨_, _, rfl, by decide, by decide, second⟩

end Begins

/-! ## The encoding of bytes -/

section Detect

variable {b : UInt8} {rest : Bytes}

/-- Bytes that begin with an ASCII character have no byte order mark. -/
theorem detect_ascii (filled : b ≠ 0) (ascii : b < 0x80) :
    Encoding.detect (b :: rest) = (.unmarked (b :: rest), b :: rest) := by
  unfold Encoding.detect
  split
  next same =>
    obtain ⟨rfl, -⟩ := List.cons.inj same
    exact absurd rfl filled
  next same =>
    obtain ⟨rfl, -⟩ := List.cons.inj same
    exact absurd ascii (by decide)
  next same =>
    obtain ⟨rfl, -⟩ := List.cons.inj same
    exact absurd ascii (by decide)
  next same =>
    obtain ⟨rfl, -⟩ := List.cons.inj same
    exact absurd ascii (by decide)
  next same =>
    obtain ⟨rfl, -⟩ := List.cons.inj same
    exact absurd ascii (by decide)
  next => rfl

/-- Bytes that begin with two that are not zero are in UTF-8. -/
theorem unmarked_ascii (filled : b ≠ 0) (second : ∀ d ∈ rest.head?, d ≠ 0) :
    Encoding.unmarked (b :: rest) = .utf8 := by
  unfold Encoding.unmarked
  split
  next same =>
    obtain ⟨rfl, -⟩ := List.cons.inj same
    exact absurd rfl filled
  next same =>
    obtain ⟨-, rfl⟩ := List.cons.inj same
    exact absurd rfl (second 0 rfl)
  next same =>
    obtain ⟨rfl, -⟩ := List.cons.inj same
    exact absurd rfl filled
  next same =>
    obtain ⟨-, rfl⟩ := List.cons.inj same
    exact absurd rfl (second 0 rfl)
  next => rfl

end Detect

/-- The characters of a string begin as its code points do. -/
theorem toList_eq_cons {s : String} {c : Char} {more : List CodePoint}
    (text : (s : Text).points = .char c :: more) :
    ∃ cs : List Char, s.toList = c :: cs ∧ more = cs.map .char := by
  obtain ⟨d, cs, chars, first, rest⟩ := List.map_eq_cons_iff.mp text
  obtain rfl := CodePoint.char.inj first
  exact ⟨cs, chars, rest.symm⟩

/-- What is read of the bytes of a string is what is read of the string. -/
theorem ofBytes_ofText {s : String} {v : Json} (read : ofText s = .ok v) :
    ofBytes (Bytes.ofText s) = .ok v := by
  obtain ⟨c, points, begins, ascii, filled, second⟩ := (ofPoints_eq_ok_iff.mp read).begins
  obtain ⟨more, text, rfl⟩ := toList_eq_cons begins
  have bytes : Bytes.ofText s =
      UInt8.ofNat c.toNat :: more.flatMap String.utf8EncodeChar := by
    rw [Bytes.ofText, text, List.flatMap_cons, utf8EncodeChar_ascii ascii, List.singleton_append]
  have first := UInt8.toNat_ofNat_of_lt' (show c.toNat < 256 by omega)
  have first_filled : UInt8.ofNat c.toNat ≠ 0 := by
    intro zero
    rw [zero] at first
    exact absurd (Char.toNat_inj.mp first.symm) filled
  have first_ascii : UInt8.ofNat c.toNat < 0x80 := by
    rw [UInt8.lt_iff_toNat_lt, first]
    exact ascii
  have second_filled : ∀ d ∈ (more.flatMap String.utf8EncodeChar).head?, d ≠ 0 := by
    intro d mem
    cases more with
    | nil => cases mem
    | cons next more =>
      have unzero : isZero (.char next) = false := apart_cons.mp second
      have other : next ≠ '\x00' := fun same =>
        beq_eq_false_iff_ne.mp unzero (congrArg CodePoint.char same)
      obtain ⟨b, rest, same, nonzero⟩ := utf8EncodeChar_begins other
      rw [List.flatMap_cons, same] at mem
      exact Option.some_inj.mp mem ▸ nonzero
  -- Neither the first nor the second byte is zero, and the first one is ASCII, so nothing speaks
  -- for another encoding.
  have unmarked := unmarked_ascii first_filled second_filled
  rw [← bytes] at unmarked
  have detected : Encoding.detect (Bytes.ofText s) = (.utf8, Bytes.ofText s) := by
    rw [← unmarked, bytes]
    exact detect_ascii first_filled first_ascii
  rw [ofBytes, detected]
  dsimp only
  rw [Encoding.decode?, Utf8.decode?_ofText]
  exact read

end Json

/-- A response whose body is the bytes of a JSON text has the text's value. -/
theorem Response.json_ofText {s : String} {v : Json} (read : Json.ofText s = .ok v)
    {r : Response} (content : r.content = Bytes.ofText s) : r.json = .ok v := by
  have filled : (Bytes.ofText s).isEmpty = false := by
    obtain ⟨c, more, begins, ascii, -⟩ := (Json.ofPoints_eq_ok_iff.mp read).begins
    obtain ⟨cs, text, -⟩ := Json.toList_eq_cons begins
    rw [Bytes.ofText, text, List.flatMap_cons, Bytes.utf8EncodeChar_ascii ascii]
    rfl
  rw [json, content, filled, Json.ofBytes_ofText read]
  rfl

end GatewayClient
