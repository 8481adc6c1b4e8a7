import GatewayClient.Text.Basic
import GatewayClient.Text.Hex
import GatewayClient.Text.Printable

/-!
# Quoted texts

Messages show a text that came from outside between quotation marks, with a backslash before
what would be misread. Single marks are used, unless the text holds single marks and no double
ones. What is not printable is shown by its code point, so every text can be shown.
-/

set_option autoImplicit false

namespace GatewayClient.Text

/-- The quotation mark that `quoted` chooses. -/
def quotationMark (t : Text) : Char :=
  if t.points.contains (.char '\'') && !t.points.contains (.char '"') then '"' else '\''

/-- A character as it stands inside a text quoted with `mark`. -/
def escapeWithin (mark c : Char) : List Char :=
  if c == '\\' || c == mark then ['\\', c]
  else if c == '\n' then ['\\', 'n']
  else if c == '\r' then ['\\', 'r']
  else if c == '\t' then ['\\', 't']
  else if isPrintable c then [c]
  else if c.toNat < 0x100 then '\\' :: 'x' :: hexDigits 2 c.toNat
  else if c.toNat < 0x10000 then '\\' :: 'u' :: hexDigits 4 c.toNat
  else '\\' :: 'U' :: hexDigits 8 c.toNat

/-- A code point as it stands inside a text quoted with `mark`. -/
def showWithin (mark : Char) : CodePoint → List Char
  | .char c => escapeWithin mark c
  | .surrogate offset => '\\' :: 'u' :: hexDigits 4 (CodePoint.surrogate offset).code

/-- The text between quotation marks. -/
def quoted (t : Text) : String :=
  let mark := quotationMark t
  String.ofList (mark :: t.points.flatMap (showWithin mark) ++ [mark])

end GatewayClient.Text
