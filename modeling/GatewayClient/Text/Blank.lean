import GatewayClient.Text.Basic
import GatewayClient.Text.CodeRange

/-!
# Blanks

Three sets of blanks meet in the client. `isBlank` is the Unicode one: white space, and the
separators whose bidirectional class is a break. `isAsciiBlank` is the one that number texts
are trimmed by. The blanks of JSON are a third set and live with its grammar.
-/

set_option autoImplicit false

namespace GatewayClient.Text

/-- Code points that count as blank: the information separators are among them, the zero-width
space and the byte order mark are not. -/
def blankRanges : List CodeRange := [
  (0x9, 0xD), (0x1C, 0x20), (0x85, 0x85), (0xA0, 0xA0), (0x1680, 0x1680),
  (0x2000, 0x200A), (0x2028, 0x2029), (0x202F, 0x202F), (0x205F, 0x205F), (0x3000, 0x3000)]

/-- White space and breaks of Unicode. -/
def isBlank (c : Char) : Bool := CodeRange.covers blankRanges c.toNat

/-- Tab, line feed, vertical tab, form feed, carriage return and space. -/
def isAsciiBlank (c : Char) : Bool := c == ' ' || (9 ≤ c.toNat && c.toNat ≤ 13)

/-- Drop from both ends what `skip` holds of. -/
def trimBy {α : Type} (skip : α → Bool) (cs : List α) : List α :=
  ((cs.dropWhile skip).reverse.dropWhile skip).reverse

/-- A string without the blanks around it. -/
def strip (s : String) : String := String.ofList (trimBy isBlank s.toList)

/-- A text without the blanks around it. A surrogate is no blank. -/
def stripped (t : Text) : Text := ⟨trimBy (·.char?.any isBlank) t.points⟩

end GatewayClient.Text
