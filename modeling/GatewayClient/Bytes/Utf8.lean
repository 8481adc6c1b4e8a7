import GatewayClient.Text.Basic

/-!
# UTF-8

A byte sequence splits into code points and malformed parts. A malformed part is a maximal prefix
of some character's bytes, or one byte that starts no character. Strict reading refuses malformed
parts, lenient reading puts U+FFFD in their place.

The three bytes that would write a surrogate are malformed by the standard. A reader may pass them
on instead, as the surrogate.
-/

set_option autoImplicit false

namespace GatewayClient

/-- A sequence of bytes. -/
abbrev Bytes := List UInt8

namespace Bytes

/-- The UTF-8 bytes of a text. -/
def ofText (s : String) : Bytes := s.toList.flatMap String.utf8EncodeChar

namespace Utf8

/-- Where reading stands between two bytes: between characters, or inside one, which owes
`owed + 1` bytes, whose bits so far are `bits`, and whose next byte lies in `[low, high]`. -/
inductive State where
  | start
  | inside (owed bits low high : Nat)
deriving DecidableEq, Repr

/-- What becomes of the bytes that would write a surrogate. -/
inductive Surrogates where
  | malformed
  | passed
deriving DecidableEq, Repr

/-- What a first byte begins: a whole character, a longer one, or nothing. -/
def State.first (surrogates : Surrogates) (b : Nat) : Option (Char ⊕ State) :=
  if b < 0x80 then some (.inl (Char.ofNat b))
  else if b < 0xC2 then none
  else if b < 0xE0 then some (.inr (.inside 0 (b - 0xC0) 0x80 0xBF))
  else if b < 0xF0 then
    some (.inr (.inside 1 (b - 0xE0) (if b == 0xE0 then 0xA0 else 0x80)
      (if b == 0xED && surrogates == .malformed then 0x9F else 0xBF)))
  else if b < 0xF5 then
    some (.inr (.inside 2 (b - 0xF0) (if b == 0xF0 then 0x90 else 0x80)
      (if b == 0xF4 then 0x8F else 0xBF)))
  else none

/-- The parts of a byte sequence: a code point, or `none` for a malformed part. -/
def parts (surrogates : Surrogates) : State → Bytes → List (Option CodePoint)
  | .start, [] => []
  | .inside .., [] => [none]
  | .start, b :: rest => fromStart b.toNat (parts surrogates · rest)
  | .inside owed bits low high, b :: rest =>
    if low ≤ b.toNat && b.toNat ≤ high then
      let bits := bits * 64 + (b.toNat - 0x80)
      match owed with
      | 0 => some (.ofCode bits) :: parts surrogates .start rest
      | owed + 1 => parts surrogates (.inside owed bits 0x80 0xBF) rest
    else none :: fromStart b.toNat (parts surrogates · rest)
where
  /-- The parts from a first byte on; `next` gives those of the bytes after it. -/
  fromStart (b : Nat) (next : State → List (Option CodePoint)) : List (Option CodePoint) :=
    match State.first surrogates b with
    | none => none :: next .start
    | some (.inl c) => some (.char c) :: next .start
    | some (.inr state) => next state

/-- All code points, if no part is malformed. -/
def whole? : List (Option CodePoint) → Option (List CodePoint)
  | [] => some []
  | none :: _ => none
  | some point :: rest => (whole? rest).map (point :: ·)

/-- Read the bytes; `none` if a part is malformed. -/
def decode? (surrogates : Surrogates) (bytes : Bytes) : Option Text :=
  (whole? (parts surrogates .start bytes)).map Text.mk

/-- Read the bytes with U+FFFD for each malformed part. -/
def decodeLossy (bytes : Bytes) : Text :=
  ⟨(parts .malformed .start bytes).map (·.getD (.char '\uFFFD'))⟩

end Utf8
end Bytes
end GatewayClient
