import GatewayClient.Decimal.Fixed
import GatewayClient.Time.Scale

/-!
# Seconds as exact numbers

The scale on which sums, products and powers are what arithmetic says they are: nothing is rounded
and nothing overflows. It has no infinity and no NaN, so a text that spells one is no number here.
-/

set_option autoImplicit false

namespace GatewayClient.ExactSeconds

open GatewayClient.Decimal

/-- The value of a numeral. -/
def ofNumeral (n : Numeral) : Rat :=
  let (num, den) := if 0 ≤ n.exponent then (n.mantissa * Nat.pow 10 n.exponent.toNat, 1)
    else (n.mantissa, Nat.pow 10 (-n.exponent).toNat)
  let magnitude : Rat := mkRat num den
  if n.negative then -magnitude else magnitude

/-- The value of a number text that has one. -/
def ofSpelled? : Spelled → Option Rat
  | .finite n => some (ofNumeral n)
  | .infinite _ | .notANumber => none

/-- The number as a fraction in lowest terms. -/
def display (q : Rat) : String :=
  if q.den == 1 then toString q.num else toString q.num ++ "/" ++ toString q.den

/-- The number with `places` digits behind the point, a tie rounded to the even one. -/
def fixed (places : Nat) (q : Rat) : String :=
  String.ofList ((if q < 0 then ['-'] else []) ++
    placeDigits places (roundHalfEven (q.num.natAbs * Nat.pow 10 places) q.den))

instance : TimeScale Rat where
  lt a b := a < b
  le a b := a ≤ b
  power x n := .ok (x.pow n)
  ofSpelled?
  display
  fixed

end GatewayClient.ExactSeconds
