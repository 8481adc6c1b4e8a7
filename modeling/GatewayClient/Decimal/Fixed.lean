import GatewayClient.Decimal.Binary64

/-!
# Decimals with fixed places

A double is written with a given number of digits behind the point. Its exact value is rounded
to the nearest such decimal, a tie to the even one.
-/

set_option autoImplicit false

namespace GatewayClient.Decimal

/-- The whole number nearest to a quotient, the even one of two. -/
def roundHalfEven (num den : Nat) : Nat :=
  let floor := num / den
  let twice := 2 * (num % den)
  if twice < den || (twice == den && floor % 2 == 0) then floor else floor + 1

/-- Write a whole number of `10 ^ -places`. -/
def placeDigits (places n : Nat) : List Char :=
  let digits := Nat.toDigits 10 n
  let padded := List.replicate (places + 1 - digits.length) '0' ++ digits
  let whole := padded.length - places
  padded.take whole ++ if places == 0 then [] else '.' :: padded.drop whole

/-- The text of a double with `places` digits behind the point. -/
def fixed (places : Nat) (x : Float) : String :=
  match Binary64.ofFloat x with
  | .notANumber => "nan"
  | .infinite negative => if negative then "-inf" else "inf"
  | .finite negative mantissa exponent =>
    let (num, den) := ratioOf mantissa exponent
    String.ofList ((if negative then ['-'] else []) ++
      placeDigits places (roundHalfEven (num * Nat.pow 10 places) den))

end GatewayClient.Decimal
