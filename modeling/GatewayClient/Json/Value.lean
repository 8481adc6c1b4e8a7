import GatewayClient.Text.Basic

/-!
# JSON values

Whole numbers and doubles are different numbers here: a number written with a point or an
exponent is a double, and stays one. Objects keep the order in which their keys first appeared.
-/

set_option autoImplicit false

namespace GatewayClient

/-- A number of a JSON text. -/
inductive Number where
  | int (n : Int)
  | real (x : Float)
deriving DecidableEq

/-- A JSON value. -/
inductive Json where
  | null
  | bool (b : Bool)
  | num (n : Number)
  | str (t : Text)
  | arr (items : List Json)
  | obj (fields : List (Text × Json))
deriving Inhabited

namespace Json

/-- Fields of an object, in the order in which their keys first appeared. -/
abbrev Fields := List (Text × Json)

/-- The value of a key. -/
def Fields.get? (fields : Fields) (key : Text) : Option Json :=
  (fields.find? fun field => field.1 == key).map (·.2)

/-- Set a key: in place if it is there, else behind the others. -/
def Fields.put (key : Text) (value : Json) : Fields → Fields
  | [] => [(key, value)]
  | field :: rest =>
    if field.1 == key then (key, value) :: rest else field :: Fields.put key value rest

/-- An object from fields in which a key may be repeated: the last value, at the first place. -/
def Fields.ofPairs (pairs : List (Text × Json)) : Fields :=
  pairs.foldl (fun fields pair => fields.put pair.1 pair.2) []

/-- The fields of an object. -/
def fields? : Json → Option Fields
  | .obj fields => some fields
  | _ => none

/-- The value of a key of an object. -/
def get? (value : Json) (key : Text) : Option Json :=
  value.fields?.bind (Fields.get? · key)

/-- A string's text. -/
def text? : Json → Option Text
  | .str t => some t
  | _ => none

/-- A number. -/
def number? : Json → Option Number
  | .num n => some n
  | _ => none

/-- The items of an array. -/
def items? : Json → Option (List Json)
  | .arr items => some items
  | _ => none

mutual

/-- The values are the same. -/
def same : Json → Json → Bool
  | .null, .null => true
  | .bool a, .bool b => a == b
  | .num a, .num b => a == b
  | .str a, .str b => a == b
  | .arr a, .arr b => sameItems a b
  | .obj a, .obj b => sameFields a b
  | _, _ => false

/-- The items are the same. -/
def sameItems : List Json → List Json → Bool
  | [], [] => true
  | a :: as, b :: bs => same a b && sameItems as bs
  | _, _ => false

/-- The fields are the same, in the same order. -/
def sameFields : List (Text × Json) → List (Text × Json) → Bool
  | [], [] => true
  | (key, a) :: as, (other, b) :: bs => key == other && same a b && sameFields as bs
  | _, _ => false

end

mutual

/-- The comparison of two values says whether they are equal. The recursion is that of values, over
their parts. -/
theorem same_iff (a b : Json) : same a b = true ↔ a = b := by
  cases a with
  | arr items =>
    cases b with
    | arr others => rw [same, sameItems_iff items others, arr.injEq]
    | null | bool _ | num _ | str _ | obj _ => simp [same]
  | obj fields =>
    cases b with
    | obj others => rw [same, sameFields_iff fields others, obj.injEq]
    | null | bool _ | num _ | str _ | arr _ => simp [same]
  | null | bool _ | num _ | str _ => cases b <;> simp [same]

/-- The comparison of two lists of items. -/
theorem sameItems_iff (items others : List Json) :
    sameItems items others = true ↔ items = others := by
  match items, others with
  | [], [] | [], _ :: _ | _ :: _, [] => simp [sameItems]
  | a :: as, b :: bs =>
    rw [sameItems, Bool.and_eq_true, same_iff a b, sameItems_iff as bs, List.cons.injEq]

/-- The comparison of two lists of fields. -/
theorem sameFields_iff (fields others : List (Text × Json)) :
    sameFields fields others = true ↔ fields = others := by
  match fields, others with
  | [], [] | [], _ :: _ | _ :: _, [] => simp [sameFields]
  | (key, a) :: as, (other, b) :: bs =>
    rw [sameFields, Bool.and_eq_true, Bool.and_eq_true, beq_iff_eq, same_iff a b,
      sameFields_iff as bs, List.cons.injEq, Prod.mk.injEq]

end

/-- Equality of values is decided part by part. -/
instance : DecidableEq Json := fun a b => decidable_of_iff _ (same_iff a b)

end Json
end GatewayClient
