import GatewayClient.Text.Basic
import GatewayClient.Text.Mention
import GatewayClient.Time.Scale

/-!
# Errors of a gateway operation

Every failure on the side of the network has one of seven kinds. Three of them allow a retry; the
kind alone decides that, so a malformed answer is never asked for again, and a busy node is never
given up at once.
-/

set_option autoImplicit false

namespace GatewayClient

/-- What kind of failure an operation met. -/
inductive ErrorKind where
  | transient
  | rateLimited
  | fatal
  | timeout
  | decode
  | timedOut
  | cancelled
deriving DecidableEq, Repr, Inhabited

namespace ErrorKind

/-- The word for a kind. -/
def name : ErrorKind → String
  | .transient => "transient"
  | .rateLimited => "rate_limited"
  | .fatal => "fatal"
  | .timeout => "timeout"
  | .decode => "decode"
  | .timedOut => "timed_out"
  | .cancelled => "cancelled"

/-- A retry is allowed after a failure of this kind. -/
def retryable : ErrorKind → Bool
  | .transient | .rateLimited | .timeout => true
  | _ => false

end ErrorKind

/-- A failure of a gateway operation.

`attempts` counts the requests that the operation made, `lastError` is the retryable failure seen
last by an operation that gave up, and `nodeReported` tells that the message is the `error` text
of the node's own envelope. -/
structure ApiError (τ : Type) where
  kind : ErrorKind
  message : Text
  code : Option Text := none
  httpStatus : Option Int := none
  retryAfter : Option τ := none
  attempts : Int := 0
  lastError : Option (ApiError τ) := none
  nodeReported : Bool := false
deriving Inhabited

namespace ApiError

variable {τ : Type}

/-- A retry is allowed. -/
def retryable (e : ApiError τ) : Bool := e.kind.retryable

/-- The node itself said that it does not know the resource. A page that says so in front of the
node is no such answer. -/
def isNotFound (e : ApiError τ) : Bool :=
  e.kind == .fatal && e.nodeReported && Text.mentions e.message "not found"

/-- The error on one line: kind and message, then code and status where there are any. -/
def summary (e : ApiError τ) : Text :=
  let code : Text := match e.code with
    | some code => if code.isEmpty then "" else ", code=" ++ code
    | none => ""
  let status := match e.httpStatus with
    | some status => ", status=" ++ toString status
    | none => ""
  e.kind.name ++ ": " ++ e.message ++ code ++ status

/-- The retryable failure behind an operation that gave up; any other error itself. -/
def root (e : ApiError τ) : ApiError τ := e.lastError.getD e

end ApiError
end GatewayClient
