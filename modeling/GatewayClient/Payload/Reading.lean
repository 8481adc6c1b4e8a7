import GatewayClient.Json.Value

/-!
# Reading fields

The decoders take the fields of a payload by name, and a payload whose fields are not of their kinds
is not read at all. A field that must be there is missing where it is null; one that may be missing
may also be null, but nothing of another kind stands in for it.
-/

set_option autoImplicit false

namespace GatewayClient.Json.Fields

/-- The text under a key. -/
def text? (fields : Fields) (key : Text) : Option Text := (fields.get? key).bind Json.text?

/-- The number under a key. -/
def number? (fields : Fields) (key : Text) : Option Number :=
  (fields.get? key).bind Json.number?

/-- The object under a key. -/
def object? (fields : Fields) (key : Text) : Option Fields :=
  (fields.get? key).bind Json.fields?

/-- What is under a key that may be missing or null, read as something of its kind. -/
def optional? {α : Type} (fields : Fields) (key : Text) (read : Json → Option α) :
    Option (Option α) :=
  match fields.get? key with
  | none | some .null => some none
  | some value => (read value).map some

/-- The text under a key that may be missing, unless it is empty. -/
def filled? (fields : Fields) (key : Text) : Option (Option Text) :=
  (fields.optional? key Json.text?).map (·.filter fun t => !t.isEmpty)

/-- The items under a key that may be missing; then there are none. -/
def items? (fields : Fields) (key : Text) : Option (List Json) :=
  (fields.optional? key Json.items?).map (·.getD [])

end GatewayClient.Json.Fields
