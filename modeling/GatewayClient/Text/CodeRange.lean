/-!
# Ranges of code points

A character class given by a standard is a list of closed ranges of code points.
-/

set_option autoImplicit false

namespace GatewayClient.Text

/-- A closed range of code points: its first and its last member. -/
abbrev CodeRange := Nat × Nat

/-- Some range of the list holds the code point. -/
def CodeRange.covers (ranges : List CodeRange) (code : Nat) : Bool :=
  ranges.any fun range => range.1 ≤ code && code ≤ range.2

end GatewayClient.Text
