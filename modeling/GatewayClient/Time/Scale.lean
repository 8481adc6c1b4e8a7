import GatewayClient.Decimal.Literal

/-!
# Scales of time

Delays, deadlines and clock readings are numbers of seconds. The client needs little of them:
sums, products, comparisons, whole powers, and text. A type with that is a scale of time. The
running client measures in doubles; a scale of exact numbers has the same operations without
rounding.
-/

set_option autoImplicit false

namespace GatewayClient

/-- A number that is too large for the scale. -/
inductive Overflow where
  /-- The power of a finite number is beyond the scale. -/
  | power
  /-- The exponent itself is beyond the scale. -/
  | exponent
deriving DecidableEq, Repr

/-- What is reported for an overflow. -/
def Overflow.message : Overflow → String
  | .power => "(34, 'Numerical result out of range')"
  | .exponent => "int too large to convert to float"

/-- Numbers that can measure time in seconds. -/
class TimeScale (τ : Type) extends Add τ, Sub τ, Mul τ, OfScientific τ where
  lt : τ → τ → Bool
  le : τ → τ → Bool
  /-- Whole powers of a number that is at least one, or no number at all. -/
  power : τ → Nat → Except Overflow τ
  /-- The number that a text says, if the scale has it. -/
  ofSpelled? : Decimal.Spelled → Option τ
  /-- The number in a message. -/
  display : τ → String
  /-- The number with a given count of digits behind the point. -/
  fixed : Nat → τ → String

namespace TimeScale

variable {τ : Type} [TimeScale τ]

/-- The second number if it is below the first, else the first. -/
def least (a b : τ) : τ := if lt b a then b else a

/-- The second number if it is above the first, else the first. -/
def greatest (a b : τ) : τ := if lt a b then b else a

/-- Read a number text. -/
def parse? (s : String) : Option τ := (Decimal.spelled? s).bind ofSpelled?

end TimeScale
end GatewayClient
