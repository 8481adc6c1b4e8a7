import GatewayClient.Endpoint.Catalog
import GatewayClient.Http.Outcome
import GatewayClient.Text.LowerCase
import GatewayClient.Time.Scale

/-!
# The HTTP transport

A transport makes one request at a time and never repeats it. Trouble below HTTP is not raised but
becomes a failure of one of four causes, with the text of the fault, or its name where it has no
text. Responses get their header names in lower case and repeated headers joined.
-/

set_option autoImplicit false

namespace GatewayClient

/-- What can go wrong below HTTP. -/
inductive WireFault where
  | connectTimeout
  | readTimeout
  | writeTimeout
  | poolTimeout
  | anyTimeout
  | unsupportedProtocol
  | invalidUrl
  | connectError
  | readError
  | writeError
  | closeError
  | networkError
  | proxyError
  | protocolError
  | localProtocolError
  | remoteProtocolError
  | transportError
  | decodingError
  | tooManyRedirects
  | requestError
  | httpError
deriving DecidableEq, Repr, Inhabited

namespace WireFault

/-- The name of a fault. -/
def name : WireFault → String
  | .connectTimeout => "ConnectTimeout"
  | .readTimeout => "ReadTimeout"
  | .writeTimeout => "WriteTimeout"
  | .poolTimeout => "PoolTimeout"
  | .anyTimeout => "TimeoutException"
  | .unsupportedProtocol => "UnsupportedProtocol"
  | .invalidUrl => "InvalidURL"
  | .connectError => "ConnectError"
  | .readError => "ReadError"
  | .writeError => "WriteError"
  | .closeError => "CloseError"
  | .networkError => "NetworkError"
  | .proxyError => "ProxyError"
  | .protocolError => "ProtocolError"
  | .localProtocolError => "LocalProtocolError"
  | .remoteProtocolError => "RemoteProtocolError"
  | .transportError => "TransportError"
  | .decodingError => "DecodingError"
  | .tooManyRedirects => "TooManyRedirects"
  | .requestError => "RequestError"
  | .httpError => "HTTPError"

/-- Every fault. -/
def all : List WireFault :=
  [.connectTimeout, .readTimeout, .writeTimeout, .poolTimeout, .anyTimeout,
    .unsupportedProtocol, .invalidUrl, .connectError, .readError, .writeError, .closeError,
    .networkError, .proxyError, .protocolError, .localProtocolError, .remoteProtocolError,
    .transportError, .decodingError, .tooManyRedirects, .requestError, .httpError]

/-- The fault of a name. -/
def ofName? (name : String) : Option WireFault := all.find? fun fault => fault.name == name

/-- The cause that a fault counts under. -/
def cause : WireFault → FailureCause
  | .connectTimeout | .readTimeout | .writeTimeout | .poolTimeout | .anyTimeout => .timeout
  | .unsupportedProtocol | .invalidUrl => .invalidRequest
  | .decodingError | .tooManyRedirects | .requestError | .httpError => .protocol
  | _ => .connection

end WireFault

/-- A timeout that is not positive. -/
structure TimeoutFault (τ : Type) where
  got : τ

/-- What is reported for a fault. -/
def TimeoutFault.message {τ : Type} [TimeScale τ] (f : TimeoutFault τ) : String :=
  "timeout must be > 0, got: " ++ TimeScale.display f.got

/-- A request as the peer sees it. -/
structure WireRequest (τ : Type) where
  method : Method
  url : String
  body : Bytes
  contentType : Option String
  timeout : τ

/-- What comes back from the peer. -/
inductive WireReply where
  | received (status : Int) (content : Bytes) (headers : List (String × String))
  | broken (fault : WireFault) (detail : String)

namespace WireReply

/-- Add a header: behind the value it has already, if it has one. -/
def join (name value : String) : List (String × String) → List (String × String)
  | [] => [(name, value)]
  | header :: rest =>
    if header.1 == name then (name, header.2 ++ ", " ++ value) :: rest
    else header :: join name value rest

/-- Headers with names in lower case, each name once. -/
def joinHeaders (headers : List (String × String)) : List (String × String) :=
  headers.foldl (fun all header => join (Text.lower header.1) header.2 all) []

/-- The headers of a response. The length of a body that is not empty is among them. -/
def responseHeaders (content : Bytes) (headers : List (String × String)) :
    List (String × String) :=
  let joined := joinHeaders headers
  if content.isEmpty || joined.any (·.1 == "content-length") then joined
  else joined ++ [("content-length", toString content.length)]

/-- What became of the request. -/
def outcome : WireReply → Outcome
  | .received status content headers =>
    .response { status, content, headers := responseHeaders content headers }
  | .broken fault detail =>
    .failure { cause := fault.cause, detail := if detail.isEmpty then fault.name else detail }

end WireReply

/-- A transport: the timeout of requests that name none, and whether it has been closed. -/
structure Transport (τ : Type) where
  timeout : τ
  isClosed : Bool := false

namespace Transport

variable {τ : Type} [TimeScale τ]

/-- Refuse a timeout that is not positive. One that compares with nothing passes. -/
def checkTimeout (timeout : τ) : Except (TimeoutFault τ) τ :=
  if TimeScale.le timeout 0.0 then .error ⟨timeout⟩ else .ok timeout

/-- Open a transport. -/
def start (timeout : τ) : Except (TimeoutFault τ) (Transport τ) :=
  (checkTimeout timeout).map fun timeout => { timeout }

/-- The timeout of a transport that is given none. -/
def defaultTimeout : τ := 30.0

/-- The request that goes out. A body is announced as JSON, even an empty one. -/
def prepare (t : Transport τ) (method : Method) (url : String) (body : Option Bytes)
    (timeout : Option τ) : Except (TimeoutFault τ) (WireRequest τ) :=
  (checkTimeout (timeout.getD t.timeout)).map fun timeout =>
    { method
      url
      body := body.getD []
      contentType := body.map fun _ => "application/json"
      timeout }

/-- Close the transport. -/
def close (t : Transport τ) : Transport τ := { t with isClosed := true }

end Transport
end GatewayClient
