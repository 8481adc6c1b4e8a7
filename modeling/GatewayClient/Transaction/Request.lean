import GatewayClient.Json.Printer
import GatewayClient.Bytes.Utf8

/-!
# Signed transactions

A signed transaction comes from elsewhere. Its payload is sent byte for byte and never looked
into. A transaction that is given as an object is written once, when the request is made.
-/

set_option autoImplicit false

namespace GatewayClient

/-- A signed transaction to be sent. The hash is known once it has been sent. -/
structure TransactionRequest where
  payload : Bytes
  sender : Text
  hash : Option Text := none
deriving DecidableEq, Repr

/-- Why a transaction cannot be sent. -/
inductive RequestFault where
  | emptyPayload
  | emptySender
  | unknownSender
  /-- A whole number of the transaction has more digits than can be written. -/
  | tooManyDigits
deriving DecidableEq, Repr

/-- What is reported for a fault. -/
def RequestFault.message : RequestFault → String
  | .emptyPayload => "payload must be non-empty"
  | .emptySender => "sender must be non-empty"
  | .unknownSender => "sender must be given or present in the transaction"
  | .tooManyDigits => Decimal.tooManyDigitsMessage

namespace TransactionRequest

/-- A request for a payload that is written already. -/
def ofPayload (payload : Bytes) (sender : Text) : Except RequestFault TransactionRequest :=
  if payload.isEmpty then .error .emptyPayload
  else if sender.isEmpty then .error .emptySender
  else .ok { payload, sender }

/-- A request for a transaction object of a given sender. -/
def ofFields (tx : Json.Fields) (sender : Text) : Except RequestFault TransactionRequest :=
  match (Json.obj tx).compact? with
  | some text => ofPayload (Bytes.ofText text) sender
  | none => .error .tooManyDigits

/-- A request for a transaction object. Where no sender is given, the object names it. -/
def ofTransaction (tx : Json.Fields) (sender : Option Text) :
    Except RequestFault TransactionRequest :=
  match sender.filter fun name => !name.isEmpty with
  | some name => ofFields tx name
  | none =>
    match (Json.Fields.get? tx "sender").bind Json.text? with
    | some name => if name.isEmpty then .error .unknownSender else ofFields tx name
    | none => .error .unknownSender

/-- The request with its hash. -/
def withHash (r : TransactionRequest) (hash : Text) : TransactionRequest :=
  { r with hash := some hash }

/-- The body that sends several transactions at once. -/
def batch (requests : List TransactionRequest) : Bytes :=
  Bytes.ofText "[" ++ List.intercalate (Bytes.ofText ",") (requests.map (·.payload))
    ++ Bytes.ofText "]"

end TransactionRequest
end GatewayClient
