import GatewayClient.Json.Encoding

/-!
# Outcomes of an HTTP request

A request ends with a response of any status, or with a failure below HTTP. Neither is an error
of the program: what an outcome means is for the caller to decide.
-/

set_option autoImplicit false

namespace GatewayClient

/-- Why a request never got a response. -/
inductive FailureCause where
  | connection
  | timeout
  | protocol
  | invalidRequest
deriving DecidableEq, Repr

/-- The word for a cause. -/
def FailureCause.name : FailureCause → String
  | .connection => "connection"
  | .timeout => "timeout"
  | .protocol => "protocol"
  | .invalidRequest => "invalid_request"

/-- A request that failed below HTTP. -/
structure TransportFailure where
  cause : FailureCause
  detail : String := ""
deriving DecidableEq, Repr

/-- A response as received. Header names are in lower case. -/
structure Response where
  status : Int
  content : Bytes := []
  headers : List (String × String) := []
deriving DecidableEq, Repr

/-- What became of a request. -/
inductive Outcome where
  | response (r : Response)
  | failure (f : TransportFailure)
deriving DecidableEq, Repr

/-- Why a response has no JSON body. -/
inductive BodyFault where
  | empty
  | json (fault : Json.Fault)
deriving DecidableEq, Repr

/-- What is reported for a fault, where there is something to report. -/
def BodyFault.message? : BodyFault → Option String
  | .empty => some "empty response body"
  | .json fault => fault.message?

namespace Response

/-- The status is one of success. -/
def ok (r : Response) : Bool := 200 ≤ r.status && r.status < 300

/-- The value of a header. -/
def header? (r : Response) (name : String) : Option String :=
  (r.headers.find? fun header => header.1 == name).map (·.2)

/-- The body as JSON. -/
def json (r : Response) : Except BodyFault Json :=
  if r.content.isEmpty then .error .empty
  else match Json.ofBytes r.content with
    | .ok body => .ok body
    | .error fault => .error (.json fault)

/-- The body as JSON, where neither a fault nor the word null counts as a body. -/
def body? (r : Response) : Option Json :=
  match r.json with
  | .ok .null => none
  | .ok body => some body
  | .error _ => none

end Response
end GatewayClient
