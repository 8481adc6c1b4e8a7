import GatewayClient.Text.Basic
import GatewayClient.Text.LowerCase

/-!
# Phrases inside a text

Node messages are searched for fixed phrases without regard to case. A letter of the phrase
stands for every character that folds to it: besides both ASCII cases these are the long s, the
Kelvin sign, and the dotted and dotless forms of i.
-/

set_option autoImplicit false

namespace GatewayClient.Text

/-- The character folds to this small letter. -/
def foldsTo (letter c : Char) : Bool :=
  lowerChar c == letter
    || (letter == 's' && c == '\u017f')
    || (letter == 'i' && (c == '\u0130' || c == '\u0131'))

/-- The text starts with the phrase. A surrogate folds to nothing. -/
def opensWith : (phrase : List Char) → (text : List CodePoint) → Bool
  | [], _ => true
  | _ :: _, [] => false
  | letter :: phrase, p :: text => p.char?.any (foldsTo letter) && opensWith phrase text

/-- The phrase stands somewhere in the text. -/
def occursIn (phrase : List Char) : List CodePoint → Bool
  | [] => opensWith phrase []
  | p :: text => opensWith phrase (p :: text) || occursIn phrase text

/-- The text mentions the phrase, which is given in small letters. -/
def mentions (t : Text) (phrase : String) : Bool := occursIn phrase.toList t.points

end GatewayClient.Text
