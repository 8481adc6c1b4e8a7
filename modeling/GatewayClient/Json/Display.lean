import GatewayClient.Decimal.Shortest
import GatewayClient.Json.Value
import GatewayClient.Text.Quoted

/-!
# Values inside messages

Messages show a value in a notation of their own: texts are quoted, the words are None, True and
False, and a blank follows every comma and colon.
-/

set_option autoImplicit false

namespace GatewayClient

/-- A number inside a message. -/
def Number.display : Number → String
  | .int n => toString n
  | .real x => Decimal.render x

namespace Json

mutual

/-- A value inside a message. -/
def display : Json → String
  | .null => "None"
  | .bool true => "True"
  | .bool false => "False"
  | .num n => n.display
  | .str t => Text.quoted t
  | .arr items => "[" ++ displayItems items ++ "]"
  | .obj fields => "\x7b" ++ displayFields fields ++ "\x7d"

/-- Items with commas between them. -/
def displayItems : List Json → String
  | [] => ""
  | [item] => display item
  | item :: rest => display item ++ ", " ++ displayItems rest

/-- Fields with commas between them. -/
def displayFields : List (Text × Json) → String
  | [] => ""
  | [(key, item)] => Text.quoted key ++ ": " ++ display item
  | (key, item) :: rest =>
    Text.quoted key ++ ": " ++ display item ++ ", " ++ displayFields rest

end

/-- A value as a text of its own: a string is itself, anything else as in a message. -/
def asText : Json → Text
  | .str t => t
  | j => j.display

/-- What a value is called where another kind was expected. -/
def kindName : Json → String
  | .null => "NoneType"
  | .bool _ => "bool"
  | .num (.int _) => "int"
  | .num (.real _) => "float"
  | .str _ => "str"
  | .arr _ => "list"
  | .obj _ => "dict"

end Json
end GatewayClient
