import GatewayClient.Config.Basic
import GatewayClient.Envelope
import GatewayClient.Retry.Schedule
import GatewayClient.Schema.Basic
import GatewayClient.Transaction.Status

/-!
# Calls

A client talks to one gateway. `Client.call` is the one place where outcomes are classified and
requests repeated.

An idempotent call is repeated after a retryable failure while its policy allows, and then gives
up with the failure seen last. Any other call makes one request, and its failure is reported as it
is: sending a transaction twice would be worse than not knowing. Other failures end a call at once.
-/

set_option autoImplicit false

namespace GatewayClient

/-- A client of one gateway. -/
structure Client (τ : Type) [TimeScale τ] where
  config : Config τ
  statusTable : StatusTable := {}

/-- What a caller may add to an operation's arguments: a retry policy in place of the client's
own, and whether the operation watches the cancel event. -/
structure CallOptions (τ : Type) [TimeScale τ] where
  policy : Option (RetryPolicy τ) := none
  watching : Bool := false

variable {τ : Type} [TimeScale τ]

/-- The payload of an outcome, or the error that the outcome means. -/
def Outcome.payload : Outcome → Except (ApiError τ) Json.Fields
  | .response r => Envelope.unwrap r
  | .failure f => .error (Envelope.classifyFailure f)

/-- A call that has its request. -/
structure Call (τ : Type) [TimeScale τ] where
  operation : Operation
  request : Request τ
  policy : RetryPolicy τ
  idempotent : Bool
  watching : Bool

namespace Call

/-- The call was cancelled after so many requests. -/
def cancelledError (c : Call τ) (made : Nat) : ApiError τ :=
  { kind := .cancelled
    message := c.operation.name ++ " cancelled"
    attempts := made }

/-- The call gave up after so many requests, the last of which failed with `error`. -/
def gaveUpError (c : Call τ) (made : Nat) (error : ApiError τ) : ApiError τ :=
  { kind := .timedOut
    message := c.operation.name ++ " gave up after " ++ toString made ++ " attempt(s): "
      ++ error.message
    code := error.code
    httpStatus := error.httpStatus
    attempts := made
    lastError := some error }

/-- Make one more request after `made` ones. A retryable failure of an idempotent call is left to
`retry`, with the time since `started`. -/
def attempt (c : Call τ) (started : τ) (made : Nat)
    (retry : (error : ApiError τ) → (elapsed : τ) → Action τ Json.Fields) :
    Action τ Json.Fields := do
  if ← Action.isCancelled c.watching then Action.raise (c.cancelledError made)
  else match ← Action.send c.request c.watching with
    | none => Action.raise (c.cancelledError (made + 1))
    | some outcome =>
      match (outcome.payload : Except (ApiError τ) Json.Fields) with
      | .ok data => return data
      | .error error =>
        let error := { error with attempts := (made + 1 : Nat) }
        if error.retryable && c.idempotent then
          let now ← Action.clock
          retry error (now - started)
        else Action.raise error

/-- Make requests after `made` ones; after the next one, `left` more may follow. -/
def attempts (c : Call τ) (started : τ) : (left made : Nat) → Action τ Json.Fields
  | 0, made =>
    c.attempt started made fun error _ => Action.raise (c.gaveUpError (made + 1) error)
  | left + 1, made =>
    c.attempt started made fun error elapsed => do
      match ← c.policy.schedule made elapsed (error.kind == .rateLimited) with
      | none => Action.raise (c.gaveUpError (made + 1) error)
      | some delay =>
        let wait := c.policy.honour delay elapsed error.retryAfter
        Action.warn (.retrying c.operation.name error wait (made + 1) c.policy.maxAttempts)
        if ← Action.pause wait c.watching then c.attempts started left (made + 1)
        else Action.raise (c.cancelledError (made + 1))

/-- Run the call from its first request on. -/
def run (c : Call τ) : Action τ Json.Fields := do
  let started ← Action.clock
  c.attempts started c.policy.retries 0

end Call

namespace Client

/-- The policy that an idempotent call follows. -/
def policyFor (c : Client τ) (o : CallOptions τ) : RetryPolicy τ := o.policy.getD c.config.retry

/-- Make one logical call and take the payload out of the answer. -/
def call (c : Client τ) (op : Operation) (values : PathValues) (query : Query)
    (body : Option Bytes) (idempotent : Bool) (o : CallOptions τ) : Action τ Json.Fields := do
  let route ← Action.lift RouteFault.toFailure (c.config.catalog.route op values query)
  Call.run
    { operation := op
      request :=
        { method := route.method
          url := route.url c.config.baseUrl
          body
          timeout := c.config.timeout }
      policy := if idempotent then c.policyFor o else .single
      idempotent
      watching := o.watching }

/-- Make the logical call of a name. -/
def callNamed (c : Client τ) (name : String) (values : PathValues) (query : Query)
    (body : Option Bytes) (idempotent : Bool) (o : CallOptions τ) : Action τ Json.Fields :=
  match Operation.ofName? name with
  | some op => c.call op values query body idempotent o
  | none => Action.fail (RouteFault.unknownOperation name).toFailure

/-- Call an operation that only reads. -/
def read (c : Client τ) (op : Operation) (values : PathValues) (o : CallOptions τ) :
    Action τ Json.Fields :=
  c.call op values [] none true o

/-- Refuse an empty argument. -/
def require (name : String) (value : Text) : Action τ Unit :=
  if value.isEmpty then Action.refuse (.empty name) else pure ()

/-- Check a payload against its schema. -/
def validate (schema : Schema) (what : String) (j : Json) : Action τ Unit :=
  Action.lift .api (schema.validate what j)

end Client
end GatewayClient
