import GatewayClient.Text.Blank
import GatewayClient.Text.Digit

/-!
# Numbers in configuration and headers

A number may stand between blanks, have a sign, use the decimal digits of any script, and have
single underscores between digits. Infinity and NaN may be spelled out in any case.

Whole numbers have at most 4300 digits: `wholeNumber?` reads no more, and `writeWhole?` writes no
more.
-/

set_option autoImplicit false

namespace GatewayClient.Decimal

open GatewayClient.Text

/-- The most digits that a whole number may have. -/
def digitLimit : Nat := 4300

/-- The number has no more digits than can be written. -/
def isWritable (n : Int) : Bool := (Nat.toDigits 10 n.natAbs).length ≤ digitLimit

/-- Write a whole number, unless it has too many digits. -/
def writeWhole? (n : Int) : Option String := if isWritable n then some (toString n) else none

/-- What is reported for a whole number that cannot be written. -/
def tooManyDigitsMessage : String :=
  "Exceeds the limit (" ++ toString digitLimit ++ " digits) for integer string conversion; "
    ++ "use sys.set_int_max_str_digits() to increase the limit"

/-- Replace the digits of every script by ASCII ones and the blanks outside ASCII by spaces. Other
characters stay, and no number text has them. -/
def toAscii (c : Char) : Char :=
  if c.toNat < 0x80 then c
  else if isBlank c then ' '
  else match digitValue? c with
    | some d => Char.ofNat ('0'.toNat + d)
    | none => c

/-- Remove single underscores between digits; any other underscore refuses the text. `afterDigit`
tells whether the character before was a digit. -/
def joinDigits? (afterDigit : Bool) : List Char → Option (List Char)
  | [] => some []
  | '_' :: d :: rest =>
    if afterDigit && isAsciiDigit d then (joinDigits? true rest).map (d :: ·) else none
  | c :: rest => if c == '_' then none else (joinDigits? (isAsciiDigit c) rest).map (c :: ·)

/-- The characters of a number text, without the blanks around it. -/
def numeralChars (s : String) : List Char := trimBy isAsciiBlank (s.toList.map toAscii)

/-- Split off the sign: true for a minus. -/
def takeSign : List Char → Bool × List Char
  | '-' :: rest => (true, rest)
  | '+' :: rest => (false, rest)
  | rest => (false, rest)

/-- Read a whole number. -/
def wholeNumber? (s : String) : Option Int :=
  let (negative, body) := takeSign (numeralChars s)
  match joinDigits? false body with
  | some digits =>
    if digits.isEmpty || !digits.all isAsciiDigit || digitLimit < digits.length then none
    else some (if negative then -(natOfDigits digits : Int) else natOfDigits digits)
  | none => none

/-- `mantissa * 10 ^ exponent`, with a sign: what a finite number text says. -/
structure Numeral where
  negative : Bool
  mantissa : Nat
  exponent : Int
deriving DecidableEq, Repr

/-- Split off the digits at the front. -/
def takeDigits (cs : List Char) : List Char × List Char :=
  (cs.takeWhile isAsciiDigit, cs.dropWhile isAsciiDigit)

/-- Read the exponent behind the mark, all of what is left. -/
def exponent? : List Char → Option Int
  | [] => some 0
  | mark :: rest =>
    if mark == 'e' || mark == 'E' then
      let (negative, digits) := takeSign rest
      if digits.isEmpty || !digits.all isAsciiDigit then none
      else some (if negative then -(natOfDigits digits : Int) else natOfDigits digits)
    else none

/-- Read a number without sign: digits, a point with digits on at least one of its sides, an
exponent. -/
def numeral? (negative : Bool) (cs : List Char) : Option Numeral :=
  let (whole, rest) := takeDigits cs
  let (fraction, rest) := match rest with
    | '.' :: rest => takeDigits rest
    | rest => ([], rest)
  if whole.isEmpty && fraction.isEmpty then none
  else (exponent? rest).map fun e =>
    ⟨negative, natOfDigits (whole ++ fraction), e - fraction.length⟩

/-- What a number text says. -/
inductive Spelled where
  | finite (n : Numeral)
  | infinite (negative : Bool)
  | notANumber
deriving DecidableEq, Repr

/-- Read a number text. -/
def spelled? (s : String) : Option Spelled :=
  let chars := numeralChars s
  let (negative, body) := takeSign chars
  let word := String.ofList (body.map Char.toLower)
  if word == "inf" || word == "infinity" then some (.infinite negative)
  else if word == "nan" then some .notANumber
  else match joinDigits? false body with
    | some body => (numeral? negative body).map .finite
    | none => none

/-- The double nearest to a numeral. A numeral far beyond the doubles is infinite or zero, which
is decided without writing out its power of ten. -/
def Numeral.toFloat (n : Numeral) : Float :=
  let size : Int := (Nat.toDigits 10 n.mantissa).length + n.exponent
  let magnitude : Float :=
    if n.mantissa == 0 || size < -400 then 0.0
    else if 400 < size then Float.ofBits 0x7FF0000000000000
    else if 0 ≤ n.exponent then Float.ofScientific n.mantissa false n.exponent.toNat
    else Float.ofScientific n.mantissa true (-n.exponent).toNat
  if n.negative then -magnitude else magnitude

/-- The double that a number text says. -/
def Spelled.toFloat : Spelled → Float
  | .finite n => n.toFloat
  | .infinite negative => if negative then Float.ofBits 0xFFF0000000000000
    else Float.ofBits 0x7FF0000000000000
  | .notANumber => Float.ofBits 0x7FF8000000000000

end GatewayClient.Decimal
