import GatewayClient.Decimal.Literal
import GatewayClient.Decimal.Shortest
import GatewayClient.Json.Value
import GatewayClient.Text.Hex

/-!
# Writing JSON

`render` writes a value without blanks and in ASCII: every other character stands as the escapes
of its UTF-16 units. Doubles are written by their shortest decimal, and NaN and the infinities by
their number words.

A value is written as a whole or not at all: a whole number in it may have too many digits
(`compact?`).
-/

set_option autoImplicit false

namespace GatewayClient.Json

open GatewayClient.Text

/-- The escape of a UTF-16 unit. -/
def unitEscape (unit : Nat) : List Char := '\\' :: 'u' :: hexDigits 4 unit

/-- A character as it stands inside a string. -/
def renderChar (c : Char) : List Char :=
  if c == '"' then ['\\', '"']
  else if c == '\\' then ['\\', '\\']
  else if c == '\n' then ['\\', 'n']
  else if c == '\r' then ['\\', 'r']
  else if c == '\t' then ['\\', 't']
  else if c == '\x0c' then ['\\', 'f']
  else if c == '\x08' then ['\\', 'b']
  else if 0x20 ≤ c.toNat && c.toNat < 0x7F then [c]
  else if c.toNat < 0x10000 then unitEscape c.toNat
  else
    let above := c.toNat - 0x10000
    unitEscape (0xD800 + above / 0x400) ++ unitEscape (0xDC00 + above % 0x400)

/-- A code point as it stands inside a string. -/
def renderPoint : CodePoint → List Char
  | .char c => renderChar c
  | .surrogate offset => unitEscape (CodePoint.surrogate offset).code

/-- A string with its quotes. -/
def renderString (t : Text) : List Char := '"' :: t.points.flatMap renderPoint ++ ['"']

/-- A whole number. -/
def renderInt (n : Int) : List Char :=
  if n < 0 then '-' :: Nat.toDigits 10 n.natAbs else Nat.toDigits 10 n.natAbs

/-- A double, with the words of the grammar for NaN and the infinities. -/
def renderReal (x : Float) : List Char :=
  match Decimal.Binary64.ofFloat x with
  | .notANumber => "NaN".toList
  | .infinite negative => if negative then "-Infinity".toList else "Infinity".toList
  | .finite .. => Decimal.renderChars x

/-- A number. -/
def renderNumber : Number → List Char
  | .int n => renderInt n
  | .real x => renderReal x

mutual

/-- Write a value. -/
def render : Json → List Char
  | .null => "null".toList
  | .bool true => "true".toList
  | .bool false => "false".toList
  | .num n => renderNumber n
  | .str t => renderString t
  | .arr items => '[' :: renderItems items ++ [']']
  | .obj fields => '{' :: renderFields fields ++ ['}']

/-- Write items with commas between them. -/
def renderItems : List Json → List Char
  | [] => []
  | [item] => render item
  | item :: rest => render item ++ ',' :: renderItems rest

/-- Write fields with commas between them. -/
def renderFields : List (Text × Json) → List Char
  | [] => []
  | [(key, item)] => renderString key ++ ':' :: render item
  | (key, item) :: rest => renderString key ++ ':' :: render item ++ ',' :: renderFields rest

end

/-- The text of a value. -/
def compact (j : Json) : String := String.ofList (render j)

mutual

/-- No whole number of the value has more digits than can be written. -/
def isWritable : Json → Bool
  | .null | .bool _ | .str _ | .num (.real _) => true
  | .num (.int n) => Decimal.isWritable n
  | .arr items => areWritable items
  | .obj fields => areWritableFields fields

/-- All items can be written. -/
def areWritable : List Json → Bool
  | [] => true
  | item :: rest => isWritable item && areWritable rest

/-- All fields can be written. -/
def areWritableFields : List (Text × Json) → Bool
  | [] => true
  | (_, item) :: rest => isWritable item && areWritableFields rest

end

/-- The text of a value, unless a whole number in it cannot be written. -/
def compact? (j : Json) : Option String := if j.isWritable then some j.compact else none

end GatewayClient.Json
