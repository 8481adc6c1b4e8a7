import GatewayClient.ApiError
import GatewayClient.Decimal.Binary64
import GatewayClient.Json.Display

/-!
# Schemas

A schema says what a payload must look like where the client reads it; what it does not name is
left open. `violations` lists everything that is wrong with a value, each with the path that leads
there.

Of several violations one is reported. `Violation.outranks` is the rule: the shorter path, then the
greater path, then the value that is not of its schema's kind; of two that tie the first in the
order of the schema.
-/

set_option autoImplicit false

namespace GatewayClient

/-- The kinds of value that a schema can ask for. -/
inductive JsonKind where
  | object
  | array
  | string
  | integer
  | null
deriving DecidableEq, Repr

namespace JsonKind

/-- The word for a kind. -/
def name : JsonKind → String
  | .object => "object"
  | .array => "array"
  | .string => "string"
  | .integer => "integer"
  | .null => "null"

/-- The value is of the kind. A double without fractional part is an integer. -/
def admits : JsonKind → Json → Bool
  | .object, .obj _ => true
  | .array, .arr _ => true
  | .string, .str _ => true
  | .integer, .num (.int _) => true
  | .integer, .num (.real x) => Decimal.isWhole x
  | .null, .null => true
  | _, _ => false

end JsonKind

/-- What a value must look like.

An empty list of kinds admits every kind. The rules on objects, arrays, texts and numbers say
nothing of values of other kinds: `required` and `fields` name keys, `others` is for the values of
all other keys, `items` for the items of an array, `atLeast` bounds a number, and a text must not
be empty, or consist of decimal digits. -/
inductive Schema where
  | mk (kinds : List JsonKind) (required : List String) (fields : List (String × Schema))
    (others : Option Schema) (items : Option Schema) (atLeast : Option Int)
    (nonEmpty digits : Bool)

namespace Schema

/-- A value of some kinds. -/
def any (kinds : List JsonKind) : Schema := .mk kinds [] [] none none none false false

/-- An object with required keys and schemas for keys. -/
def object (required : List String) (fields : List (String × Schema)) : Schema :=
  .mk [.object] required fields none none none false false

/-- An object whose values all follow one schema. -/
def mapOf (values : Schema) : Schema := .mk [.object] [] [] (some values) none none false false

/-- Arrays of one schema, among other kinds. -/
def arrayOr (kinds : List JsonKind) (items : Schema) : Schema :=
  .mk (.array :: kinds) [] [] none (some items) none false false

/-- An integer that is not negative. -/
def natural : Schema := .mk [.integer] [] [] none none (some 0) false false

/-- A text that is not empty. -/
def nonEmptyText : Schema := .mk [.string] [] [] none none none true false

/-- A text of decimal digits. -/
def digitText : Schema := .mk [.string] [] [] none none none false true

end Schema

/-- A step into a value. -/
inductive Step where
  | key (name : Text)
  | index (i : Nat)
deriving DecidableEq, Repr

namespace Step

/-- The step in a path. -/
def text : Step → Text
  | .key name => name
  | .index i => (toString i : String)

/-- The order of steps: keys by code point, indices by number. -/
def below : Step → Step → Bool
  | .key a, .key b => a.isBelow b
  | .index a, .index b => a < b
  | .index _, .key _ => true
  | .key _, .index _ => false

end Step

/-- The order of paths, by their first different step; a path comes before its continuations. -/
def pathBelow : List Step → List Step → Bool
  | [], [] => false
  | [], _ :: _ => true
  | _ :: _, [] => false
  | a :: as, b :: bs => if a == b then pathBelow as bs else a.below b

/-- Something wrong with a value: where, what, and whether the value there is of its schema's
kind. -/
structure Violation where
  path : List Step
  message : String
  rightKind : Bool
deriving DecidableEq, Repr

namespace Violation

/-- The violation one step further out. -/
def within (step : Step) (v : Violation) : Violation := { v with path := step :: v.path }

/-- The first violation is reported in preference to the second one, whatever their order. -/
def outranks (a b : Violation) : Bool :=
  if a.path.length != b.path.length then a.path.length < b.path.length
  else if a.path != b.path then pathBelow b.path a.path
  else !a.rightKind && b.rightKind

/-- The violation that is reported: the first of those that no other one outranks. -/
def chief? : List Violation → Option Violation
  | [] => none
  | v :: rest => some (rest.foldl (fun best w => if w.outranks best then w else best) v)

/-- Where the value is, as messages say it. -/
def location (v : Violation) : Text :=
  if v.path.isEmpty then "<root>" else Text.intercalate "/" (v.path.map Step.text)

end Violation

namespace Schema

/-- A decimal digit of ASCII. -/
def isDigit (p : CodePoint) : Bool := p.char?.any Text.isAsciiDigit

/-- A text consists of one or more digits. One line feed may end it. -/
def isDigitLine (t : Text) : Bool :=
  let digits := t.points.takeWhile isDigit
  let rest := t.points.dropWhile isDigit
  !digits.isEmpty && (rest == [] || rest == [.char '\n'])

/-- A number is below a bound. NaN is not. -/
def isBelow (bound : Int) : Number → Bool
  | .int n => n < bound
  | .real x => x < Float.ofInt bound

/-- The kinds admit the value. -/
def admits (kinds : List JsonKind) (j : Json) : Bool :=
  kinds.isEmpty || kinds.any (·.admits j)

/-- A value of the wrong kind. -/
def kindMessage (kinds : List JsonKind) (j : Json) : String :=
  j.display ++ " is not of type "
    ++ String.intercalate ", " (kinds.map fun kind => Text.quoted kind.name)

/-- What is wrong with the value itself, its parts left aside. -/
def ownMessages (required : List String) (atLeast : Option Int) (nonEmpty digits : Bool)
    (j : Json) : List String × List String :=
  match j with
  | .obj fields =>
    ((required.filter fun (key : String) => (Json.Fields.get? fields key).isNone).map
      fun (key : String) => Text.quoted key ++ " is a required property", [])
  | .num n =>
    ([], match atLeast with
      | some bound =>
        if isBelow bound n then
          [n.display ++ " is less than the minimum of " ++ toString bound] else []
      | none => [])
  | .str t =>
    ([], (if nonEmpty && t.isEmpty then [Text.quoted t ++ " should be non-empty"] else [])
      ++ if digits && !isDigitLine t then
          [Text.quoted t ++ " does not match '^[0-9]+$'"] else [])
  | _ => ([], [])

mutual

/-- Everything that is wrong with a value: its kind, missing keys, its parts, then bounds. -/
def violations : Schema → Json → List Violation
  | .mk kinds required fields others items atLeast nonEmpty digits, j =>
    let rightKind := !kinds.isEmpty && kinds.any (·.admits j)
    let here (message : String) : Violation := ⟨[], message, rightKind⟩
    let (missing, wrong) := ownMessages required atLeast nonEmpty digits j
    (if admits kinds j then [] else [here (kindMessage kinds j)])
      ++ missing.map here
      ++ fieldViolations fields j
      ++ otherViolations others (fields.map (·.1)) j
      ++ itemViolations items j
      ++ wrong.map here

/-- What is wrong with the values of named keys. -/
def fieldViolations : List (String × Schema) → Json → List Violation
  | [], _ => []
  | (key, schema) :: rest, j =>
    (match j.get? key with
      | some value => (violations schema value).map (·.within (.key key))
      | none => []) ++ fieldViolations rest j

/-- What is wrong with the values of the keys that are not named. -/
def otherViolations : Option Schema → List String → Json → List Violation
  | some schema, named, .obj fields =>
    (fields.filter fun field => !named.any (field.1 == Text.ofString ·)).flatMap fun field =>
      (violations schema field.2).map (·.within (.key field.1))
  | _, _, _ => []

/-- What is wrong with the items of an array. -/
def itemViolations : Option Schema → Json → List Violation
  | some schema, .arr items =>
    items.zipIdx.flatMap fun item =>
      (violations schema item.1).map (·.within (.index item.2))
  | _, _ => []

end

/-- Check a payload. The error names the payload and the place of the violation. -/
def validate {τ : Type} (schema : Schema) (what : String) (j : Json) : Except (ApiError τ) Unit :=
  match Violation.chief? (schema.violations j) with
  | none => .ok ()
  | some v => .error
    { kind := .decode
      message := "malformed " ++ what ++ " payload at " ++ v.location ++ ": " ++ v.message }

end Schema
end GatewayClient
