import GatewayClient.ApiError
import GatewayClient.Http.Outcome
import GatewayClient.Json.Display
import GatewayClient.Text.Blank

/-!
# The gateway's envelope

A gateway answers with an object of `data`, `error` and `code`; some put the payload at the top
level instead. `unwrap` takes the payload out, and `classify` says what is wrong with an outcome
that has none.

The rules of `classify` are tried in this order: throttling, a server error, a rejection, a body
that is not JSON, JSON that is no object, an error that the node reports, anything else.
-/

set_option autoImplicit false

namespace GatewayClient.Envelope

variable {τ : Type}

/-- The code of an answer without error. -/
def successCode : String := "successful"

/-- Codes by which a node says that it is asked too often. -/
def throttleCodes : List String := ["too_many_requests", "throttled", "rate_limited"]

/-- Phrases by which a node says that it is asked too often. -/
def throttlePhrases : List String := ["too many requests", "rate limit", "throttl"]

/-- What a body says of an error: the message, empty for none, and the code. -/
structure Report where
  message : Text := ""
  code : Option Text := none
deriving DecidableEq, Repr

namespace Report

/-- The report of a body. Only an object has one, and only texts count. -/
def ofBody (body : Option Json) : Report :=
  match body with
  | some (.obj fields) =>
    let message := ((Json.Fields.get? fields "error").bind Json.text?).getD ""
    let code := (Json.Fields.get? fields "code").bind Json.text?
    { message := Text.stripped message
      code := code.filter fun text => !text.isEmpty }
  | _ => {}

/-- The report says that the node is asked too often. -/
def throttles (r : Report) : Bool :=
  ((r.code.bind Text.toString?).any fun code => throttleCodes.contains (Text.lower code))
    || throttlePhrases.any (Text.mentions r.message ·)

/-- The report is of an error: it has a message, and its code is not the one of success. -/
def isFailure (r : Report) : Bool := !r.message.isEmpty && r.code != some (successCode : Text)

/-- The message, or another text where there is none. -/
def messageOr (r : Report) (otherwise : Text) : Text :=
  if r.message.isEmpty then otherwise else r.message

end Report

/-- The seconds that a `retry-after` header asks for. A header that is no number, or a negative
one, asks for nothing. -/
def retryAfter? [TimeScale τ] (r : Response) : Option τ :=
  (r.header? "retry-after").bind fun text =>
    (TimeScale.parse? text).filter fun seconds => TimeScale.le 0.0 seconds

/-- What a failure below HTTP means. -/
def classifyFailure (f : TransportFailure) : ApiError τ :=
  { kind := match f.cause with
      | .timeout => .timeout
      | .invalidRequest => .fatal
      | .connection | .protocol => .transient
    message := (if f.detail.isEmpty then f.cause.name else f.detail : String) }

/-- The text of a rejection: the node's message, else a body that is not JSON, else the status. -/
def rejectionMessage (r : Response) (body : Option Json) (report : Report) : Text :=
  let plain : Text := match body with
    | none => Text.stripped (Bytes.Utf8.decodeLossy r.content)
    | some _ => ""
  report.messageOr
    (if plain.isEmpty then "request rejected with status " ++ toString r.status else plain)

/-- What a response means that gave the caller no payload. -/
def classifyResponse [TimeScale τ] (r : Response) : ApiError τ :=
  let body := r.body?
  let report := Report.ofBody body
  if r.status == 429 || report.throttles then
    { kind := .rateLimited
      message := report.messageOr "rate limited"
      code := report.code
      httpStatus := some r.status
      retryAfter := retryAfter? r }
  else if 500 ≤ r.status then
    { kind := .transient
      message := report.messageOr ("server error " ++ toString r.status : String)
      code := report.code
      httpStatus := some r.status
      retryAfter := retryAfter? r }
  else if 400 ≤ r.status then
    { kind := .fatal
      message := rejectionMessage r body report
      code := report.code
      httpStatus := some r.status
      nodeReported := !report.message.isEmpty }
  else match body with
    | none =>
      { kind := .decode
        message := "response body is not valid JSON"
        httpStatus := some r.status }
    | some (.obj _) =>
      if report.isFailure then
        { kind := .fatal
          message := report.message
          code := report.code
          httpStatus := some r.status
          nodeReported := true }
      else
        { kind := .decode
          message := "response does not match the gateway envelope"
          code := report.code
          httpStatus := some r.status }
    | some other =>
      { kind := .decode
        message := ("expected a JSON object, got " ++ other.kindName : String)
        httpStatus := some r.status }

/-- What an outcome means that gave the caller no payload. -/
def classify [TimeScale τ] : Outcome → ApiError τ
  | .response r => classifyResponse r
  | .failure f => classifyFailure f

/-- The payload of a response: the object under `data`, or the whole object without `error` and
`code`. -/
def unwrap [TimeScale τ] (r : Response) : Except (ApiError τ) Json.Fields :=
  if !r.ok then .error (classifyResponse r)
  else match r.body? with
    | some (.obj fields) =>
      let report := Report.ofBody (some (.obj fields))
      if report.isFailure || report.throttles then .error (classifyResponse r)
      else match Json.Fields.get? fields "data" with
        | some (.obj data) => .ok data
        | some _ => .error
          { kind := .decode
            message := "envelope data is not an object"
            code := report.code
            httpStatus := some r.status }
        | none => .ok (fields.filter fun field => field.1 != "error" && field.1 != "code")
    | _ => .error (classifyResponse r)

end GatewayClient.Envelope
