import GatewayClient.Bytes.Utf8
import GatewayClient.Json.Parser

/-!
# JSON in bytes

The encoding of a JSON text is seen from its first bytes: a byte order mark tells it, and without
one the zero bytes among the first four do, because a JSON text starts with an ASCII character.
Surrogates without partner are passed on in every encoding.
-/

set_option autoImplicit false

namespace GatewayClient.Json

open GatewayClient.Bytes

/-- The encodings that a JSON text may have. -/
inductive Encoding where
  | utf8
  | utf16 (order : ByteOrder)
  | utf32 (order : ByteOrder)
deriving DecidableEq, Repr

/-- The encoding of a text without byte order mark. -/
def Encoding.unmarked : Bytes → Encoding
  | 0 :: b :: _ :: _ :: _ => if b == 0 then .utf32 .bigEndian else .utf16 .bigEndian
  | _ :: 0 :: c :: d :: _ =>
    if c == 0 && d == 0 then .utf32 .littleEndian else .utf16 .littleEndian
  | [0, _] => .utf16 .bigEndian
  | [_, 0] => .utf16 .littleEndian
  | _ => .utf8

/-- The encoding of the bytes, and the bytes without their byte order mark. -/
def Encoding.detect : Bytes → Encoding × Bytes
  | 0x00 :: 0x00 :: 0xFE :: 0xFF :: rest => (.utf32 .bigEndian, rest)
  | 0xFF :: 0xFE :: 0x00 :: 0x00 :: rest => (.utf32 .littleEndian, rest)
  | 0xFE :: 0xFF :: rest => (.utf16 .bigEndian, rest)
  | 0xFF :: 0xFE :: rest => (.utf16 .littleEndian, rest)
  | 0xEF :: 0xBB :: 0xBF :: rest => (.utf8, rest)
  | bytes => (.unmarked bytes, bytes)

/-- Read the text in an encoding. -/
def Encoding.decode? : Encoding → Bytes → Option Text
  | .utf8, bytes => Utf8.decode? .passed bytes
  | .utf16 order, bytes => decode16? order bytes
  | .utf32 order, bytes => decode32? order bytes

/-- Read the bytes of a JSON text. -/
def ofBytes (bytes : Bytes) : Except Fault Json :=
  let (encoding, body) := Encoding.detect bytes
  match encoding.decode? body with
  | some text => ofText text
  | none => .error .unreadable

end GatewayClient.Json
