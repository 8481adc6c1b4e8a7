import GatewayClient.Decimal.Binary64

/-!
# The shortest decimal of a double

Of all decimals that read back as the double, `shortest` takes one with the fewest digits, and of
those the nearest to the double. For each count of digits the value has two neighbours on the
grid of that many digits; the first grid with a neighbour inside the rounding interval wins.

`render` writes that decimal: positional from 1e-4 to below 1e16, with at least one digit behind
the point, and with an exponent of at least two digits elsewhere.
-/

set_option autoImplicit false

namespace GatewayClient.Decimal

/-- `digits * 10 ^ exponent`. -/
structure Scaled where
  digits : Nat
  exponent : Int
deriving DecidableEq, Repr

/-- The real numbers that round to a double, over the common denominator `den`. The ends belong to
it iff `closed`. -/
structure RoundingInterval where
  low : Nat
  value : Nat
  high : Nat
  den : Nat
  closed : Bool

/-- The rounding interval of a positive double. Below a power of two the doubles lie twice as
dense, so the lower half gap is half as wide there. -/
def RoundingInterval.of (mantissa : Nat) (exponent : Int) : RoundingInterval :=
  let below := if mantissa == Nat.pow 2 52 && exponent != Binary64.leastExponent then 1 else 2
  let (unit, den) := ratioOf 1 (exponent - 2)
  { low := (4 * mantissa - below) * unit
    value := 4 * mantissa * unit
    high := (4 * mantissa + 2) * unit
    den := den
    closed := mantissa % 2 == 0 }

/-- The greatest `p` with `10 ^ p ≤ num / den`, for a positive quotient. The binary logarithm gives
it up to one. -/
def decade (num den : Nat) : Int :=
  let reaches (p : Int) : Bool :=
    if 0 ≤ p then den * Nat.pow 10 p.toNat ≤ num else den ≤ num * Nat.pow 10 (-p).toNat
  let guess := ((Nat.log2 num : Int) - (Nat.log2 den : Int)) * 30103 / 100000
  if reaches (guess + 1) then guess + 1 else if reaches guess then guess else guess - 1

/-- The nearest decimal on the grid `10 ^ exponent` that lies in the interval, if one does. A tie
goes to the even digit. -/
def RoundingInterval.onGrid? (i : RoundingInterval) (exponent : Int) : Option Scaled :=
  let up := Nat.pow 10 (-exponent).toNat
  let step := i.den * Nat.pow 10 exponent.toNat
  let inside (c : Nat) : Bool :=
    if i.closed then i.low * up ≤ c * step && c * step ≤ i.high * up
    else i.low * up < c * step && c * step < i.high * up
  let floor := i.value * up / step
  let twice := 2 * (i.value * up % step)
  let nearFirst := twice < step || (twice == step && floor % 2 == 0)
  let (near, far) := if nearFirst then (floor, floor + 1) else (floor + 1, floor)
  if inside near then some ⟨near, exponent⟩
  else if inside far then some ⟨far, exponent⟩
  else none

/-- The first grid that has a decimal in the interval, from the grid at `exponent` downward. -/
def RoundingInterval.firstHit (i : RoundingInterval) : (more : Nat) → (exponent : Int) → Scaled
  | 0, exponent => ⟨i.value / i.den, exponent⟩
  | more + 1, exponent =>
    match i.onGrid? exponent with
    | some hit => hit
    | none => i.firstHit more (exponent - 1)

/-- The decimal with the fewest digits that reads back as the positive double; seventeen digits
always do. -/
def shortest (mantissa : Nat) (exponent : Int) : Scaled :=
  let i := RoundingInterval.of mantissa exponent
  i.firstHit 17 (decade i.value i.den)

/-- The digits of a number without the zeros at its end. -/
def significant (n : Nat) : List Char :=
  ((Nat.toDigits 10 n).reverse.dropWhile (· == '0')).reverse

/-- Write `0.digits * 10 ^ point`, where `point` counts the digits before the decimal point. -/
def layOut (digits : List Char) (point : Int) : List Char :=
  if -4 < point && point ≤ 16 then
    if point ≤ 0 then '0' :: '.' :: List.replicate (-point).toNat '0' ++ digits
    else
      let before := digits.take point.toNat
      let after := digits.drop point.toNat
      before ++ List.replicate (point.toNat - before.length) '0' ++ '.' ::
        (if after.isEmpty then ['0'] else after)
  else
    let power := point - 1
    let magnitude := Nat.toDigits 10 power.natAbs
    digits.take 1 ++ (if digits.length ≤ 1 then [] else '.' :: digits.drop 1) ++
      'e' :: (if power < 0 then '-' else '+') ::
        List.replicate (2 - magnitude.length) '0' ++ magnitude

/-- Write a double by its shortest decimal. -/
def renderChars (x : Float) : List Char :=
  match Binary64.ofFloat x with
  | .notANumber => ['n', 'a', 'n']
  | .infinite negative => (if negative then ['-'] else []) ++ ['i', 'n', 'f']
  | .finite negative mantissa exponent =>
    (if negative then ['-'] else []) ++
      if mantissa == 0 then ['0', '.', '0']
      else
        let decimal := shortest mantissa exponent
        layOut (significant decimal.digits)
          ((Nat.toDigits 10 decimal.digits).length + decimal.exponent)

/-- The text of a double by its shortest decimal. -/
def render (x : Float) : String := String.ofList (renderChars x)

end GatewayClient.Decimal
