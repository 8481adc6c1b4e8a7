import GatewayClient.Bytes.Utf8

/-!
# Two-byte and four-byte encodings

UTF-16 and UTF-32 in either byte order. Two units of UTF-16 that are the halves of a surrogate pair
write one character; a surrogate without its partner stands for itself. A unit of UTF-32 beyond the
code points, and bytes left over at the end, make the text unreadable.
-/

set_option autoImplicit false

namespace GatewayClient.Bytes

/-- The order of the bytes within a unit. -/
inductive ByteOrder where
  | bigEndian
  | littleEndian
deriving DecidableEq, Repr

/-- The unit that two bytes make. -/
def ByteOrder.pair : ByteOrder → UInt8 → UInt8 → Nat
  | .bigEndian, a, b => a.toNat * 256 + b.toNat
  | .littleEndian, a, b => b.toNat * 256 + a.toNat

/-- The units of two bytes each. -/
def units16? (order : ByteOrder) : Bytes → Option (List Nat)
  | [] => some []
  | [_] => none
  | a :: b :: rest => (units16? order rest).map (order.pair a b :: ·)

/-- The units of four bytes each. -/
def units32? (order : ByteOrder) : Bytes → Option (List Nat)
  | [] => some []
  | a :: b :: c :: d :: rest =>
    let unit := match order with
      | .bigEndian => order.pair a b * 65536 + order.pair c d
      | .littleEndian => order.pair c d * 65536 + order.pair a b
    (units32? order rest).map (unit :: ·)
  | _ => none

/-- The first half of a surrogate pair. -/
def isHighSurrogate (unit : Nat) : Bool := 0xD800 ≤ unit && unit < 0xDC00

/-- The second half of a surrogate pair. -/
def isLowSurrogate (unit : Nat) : Bool := 0xDC00 ≤ unit && unit < 0xE000

/-- The character that a surrogate pair stands for. -/
def ofSurrogates (high low : Nat) : Char :=
  Char.ofNat (0x10000 + (high - 0xD800) * 0x400 + (low - 0xDC00))

/-- A part of a text that may be written in units of UTF-16: a code point, or a unit. -/
inductive Piece where
  | point (p : CodePoint)
  | unit (n : Nat)
deriving DecidableEq, Repr

/-- The code points of the parts. Two units in a row that are a surrogate pair are one character. -/
def join : List Piece → List CodePoint
  | [] => []
  | .unit high :: .unit low :: rest =>
    if isHighSurrogate high && isLowSurrogate low then .char (ofSurrogates high low) :: join rest
    else .ofCode high :: join (.unit low :: rest)
  | .unit unit :: rest => .ofCode unit :: join rest
  | .point p :: rest => p :: join rest

/-- Read UTF-16. -/
def decode16? (order : ByteOrder) (bytes : Bytes) : Option Text :=
  (units16? order bytes).map fun units => ⟨join (units.map .unit)⟩

/-- Read UTF-32. -/
def decode32? (order : ByteOrder) (bytes : Bytes) : Option Text :=
  (units32? order bytes).bind fun units => (units.mapM fun unit =>
    if unit < 0x110000 then some (CodePoint.ofCode unit) else none).map Text.mk

end GatewayClient.Bytes
