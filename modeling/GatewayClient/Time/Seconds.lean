import GatewayClient.Decimal.Fixed
import GatewayClient.Decimal.Shortest
import GatewayClient.Time.Scale

/-!
# Seconds as doubles

The scale that the client runs on.

`power` decides first whether the result is beyond the doubles: a base of binary exponent `k` has
an `n`-th power of binary exponent at least `k * n`. Only then is the power computed.
-/

set_option autoImplicit false

namespace GatewayClient.Seconds

open GatewayClient.Decimal

/-- The first whole number that rounds to no finite double. -/
def exponentBound : Nat := Nat.pow 2 1024 - Nat.pow 2 970

/-- The power has a binary exponent of 1024 or more, by the binary exponent of the base alone. -/
def surelyOverflows (mantissa : Nat) (exponent : Int) (n : Nat) : Bool :=
  1024 ≤ ((Nat.log2 mantissa : Int) + exponent) * n

/-- The `n`-th power of a base that is at least one, or NaN. The zeroth power is one whatever the
base, and the first one is the base itself. The last test says that such a power is at least one;
rounding never falls below. -/
def power (x : Float) (n : Nat) : Except Overflow Float :=
  if n == 0 then .ok 1.0
  else if n == 1 then .ok x
  else if exponentBound ≤ n then .error .exponent
  else if x == 1.0 then .ok 1.0
  else match Binary64.ofFloat x with
    | .finite _ mantissa exponent =>
      if surelyOverflows mantissa exponent n then .error .power
      else
        let result := Float.pow x (Float.ofNat n)
        if result == Float.ofBits 0x7FF0000000000000 then .error .power
        else if (1.0 : Float) ≤ result then .ok result else .ok 1.0
    | _ => .ok x

instance : TimeScale Float where
  lt a b := a < b
  le a b := a ≤ b
  power := power
  ofSpelled? s := some s.toFloat
  display := render
  fixed := fixed

end GatewayClient.Seconds
