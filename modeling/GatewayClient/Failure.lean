import GatewayClient.ApiError
import GatewayClient.Decimal.Literal
import GatewayClient.Text.Hex

/-!
# How an operation fails

Almost every failure of an operation is an `ApiError`. The other ways out are an argument that is
refused before its request is made, a text for a URL that has a surrogate, a delay that no number
expresses, and a payload that lacks what its schema promised.
-/

set_option autoImplicit false

namespace GatewayClient

/-- Why an argument is refused. -/
inductive ArgumentFault where
  | empty (name : String)
  | below (name : String) (bound got : Int)
  /-- A whole number has more digits than can be written. -/
  | tooManyDigits
  /-- A simulator was asked for, but the client of this base URL talks to a real network. -/
  | realNetwork (baseUrl : String)
deriving DecidableEq, Repr

/-- What is reported for a fault. -/
def ArgumentFault.message : ArgumentFault → String
  | .empty name => name ++ " must be non-empty"
  | .below name bound got =>
    match Decimal.writeWhole? got with
    | some got => name ++ " must be >= " ++ toString bound ++ ", got: " ++ got
    | none => Decimal.tooManyDigitsMessage
  | .tooManyDigits => Decimal.tooManyDigitsMessage
  | .realNetwork baseUrl =>
    "SimulatorProxy requires a client configured with simulator=True; " ++ baseUrl
      ++ " is configured as a real network"

/-- How an operation fails. -/
inductive Failure (τ : Type) where
  | api (error : ApiError τ)
  | argument (fault : ArgumentFault)
  /-- The text has a surrogate, so it has no bytes that a URL could hold. -/
  | unencodable (text : Text)
  | overflow (cause : Overflow)
  /-- The payload of this name lacks what its schema promised. -/
  | undecodable (what : String)

/-- What is reported for a text that has a surrogate: where the first run of surrogates stands. -/
def Text.unencodableMessage (t : Text) : String :=
  let isChar (p : CodePoint) := p.char?.isSome
  let start := (t.points.takeWhile isChar).length
  let run := (t.points.dropWhile isChar).takeWhile (!isChar ·)
  let place := match run with
    | [p] =>
      "character '\\u" ++ String.ofList (hexDigits 4 p.code) ++ "' in position " ++ toString start
    | _ => "characters in position " ++ toString start ++ "-" ++ toString (start + run.length - 1)
  "'utf-8' codec can't encode " ++ place ++ ": surrogates not allowed"

/-- A result of which something is known is there. -/
theorem exists_of_toOption {ε α β : Type} {x : Except ε α} {f : α → β} {b : β}
    (h : x.toOption.map f = some b) : ∃ a, x = .ok a ∧ f a = b := by
  cases x with
  | ok a => exact ⟨a, rfl, Option.some.inj h⟩
  | error e => cases h

end GatewayClient
