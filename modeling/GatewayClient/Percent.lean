import GatewayClient.Bytes.Utf8
import GatewayClient.Text.Hex

/-!
# Percent encoding

A path segment or a query component is written as its UTF-8 bytes. Letters, digits and the marks
`-`, `.`, `_` and `~` stand for themselves; every other byte is a percent sign and two
hexadecimal digits. Queries write a space as a plus sign.
-/

set_option autoImplicit false

namespace GatewayClient.Percent

open GatewayClient.Text

/-- The byte stands for itself. -/
def isUnreserved (b : UInt8) : Bool :=
  (48 ≤ b && b ≤ 57) || (65 ≤ b && b ≤ 90) || (97 ≤ b && b ≤ 122)
    || b == 45 || b == 46 || b == 95 || b == 126

/-- A byte as it stands in a path segment. -/
def encodeByte (b : UInt8) : List Char :=
  if isUnreserved b then [Char.ofNat b.toNat]
  else ['%', upperHexDigit (b.toNat / 16), upperHexDigit (b.toNat % 16)]

/-- A text as one path segment. -/
def encode (s : String) : String := String.ofList ((Bytes.ofText s).flatMap encodeByte)

/-- A byte as it stands in a query. -/
def encodeQueryByte (b : UInt8) : List Char := if b == 32 then ['+'] else encodeByte b

/-- A text as a key or a value of a query. -/
def encodeComponent (s : String) : String :=
  String.ofList ((Bytes.ofText s).flatMap encodeQueryByte)

/-- A query string: pairs with an equals sign, joined by ampersands. -/
def encodeQuery (pairs : List (String × String)) : String :=
  String.intercalate "&" (pairs.map fun pair =>
    encodeComponent pair.1 ++ "=" ++ encodeComponent pair.2)

/-- Read the bytes that a path segment writes; a percent sign without two digits stands for
itself. -/
def decodeBytes : List Char → Bytes
  | [] => []
  | '%' :: h :: l :: rest =>
    match hexValue? h, hexValue? l with
    | some h, some l => UInt8.ofNat (h * 16 + l) :: decodeBytes rest
    | _, _ => String.utf8EncodeChar '%' ++ decodeBytes (h :: l :: rest)
  | c :: rest => String.utf8EncodeChar c ++ decodeBytes rest

end GatewayClient.Percent
