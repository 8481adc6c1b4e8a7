/-!
# Binary64 as an exact number

A finite double is a sign and `mantissa * 2 ^ exponent`. The functions that write decimal text
start from this form and compute with whole numbers only.
-/

set_option autoImplicit false

namespace GatewayClient.Decimal

/-- A double taken apart. -/
inductive Binary64 where
  | finite (negative : Bool) (mantissa : Nat) (exponent : Int)
  | infinite (negative : Bool)
  | notANumber
deriving DecidableEq, Repr

/-- The exponent of the least positive double. -/
def Binary64.leastExponent : Int := -1074

/-- Take a double apart by its bits. -/
def Binary64.ofFloat (x : Float) : Binary64 :=
  let bits := x.toBits.toNat
  let negative := bits / Nat.pow 2 63 == 1
  let biased := bits / Nat.pow 2 52 % 2048
  let fraction := bits % Nat.pow 2 52
  if biased == 2047 then if fraction == 0 then .infinite negative else .notANumber
  else if biased == 0 then .finite negative fraction leastExponent
  else .finite negative (Nat.pow 2 52 + fraction) (leastExponent + (biased - 1 : Nat))

/-- The quotient of whole numbers whose value is `mantissa * 2 ^ exponent`. -/
def ratioOf (mantissa : Nat) (exponent : Int) : Nat × Nat :=
  if 0 ≤ exponent then (mantissa * Nat.pow 2 exponent.toNat, 1)
  else (mantissa, Nat.pow 2 (-exponent).toNat)

/-- The double has no fractional part; infinities and NaN have none to speak of and fail. -/
def isWhole (x : Float) : Bool :=
  match Binary64.ofFloat x with
  | .finite _ mantissa exponent =>
    let (num, den) := ratioOf mantissa exponent
    num % den == 0
  | _ => false

/-- The whole part of a finite double, rounded toward zero. -/
def truncate (x : Float) : Int :=
  match Binary64.ofFloat x with
  | .finite negative mantissa exponent =>
    let (num, den) := ratioOf mantissa exponent
    let whole : Int := (num / den : Nat)
    if negative then -whole else whole
  | _ => 0

end GatewayClient.Decimal
