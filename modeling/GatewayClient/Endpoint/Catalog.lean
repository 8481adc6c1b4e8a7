import GatewayClient.Decimal.Shortest
import GatewayClient.Endpoint.Operation
import GatewayClient.Failure
import GatewayClient.Percent
import GatewayClient.Text.Quoted

/-!
# The endpoint catalog

A catalog turns an operation into a method and a path. It is made for one version of the path
scheme, and either for a real network or for a chain simulator; only the latter resolves the
operations that control a simulator.

A path is a list of segments. Some are fixed, the others are slots for parameters, each of which
is percent-encoded into one segment. A whole number with too many digits and a text with a surrogate
cannot be written, and fill no slot.
-/

set_option autoImplicit false

namespace GatewayClient

/-- How a request is made. -/
inductive Method where
  | get
  | post
deriving DecidableEq, Repr, Inhabited

/-- The word in the request line. -/
def Method.name : Method → String
  | .get => "GET"
  | .post => "POST"

/-- The path schemes. -/
inductive ApiVersion where
  | v1
  | v2
deriving DecidableEq, Repr, Inhabited

namespace ApiVersion

/-- The tag of a scheme. -/
def tag : ApiVersion → String
  | .v1 => "v1"
  | .v2 => "v2"

/-- Every scheme, by tag. -/
def all : List ApiVersion := [.v1, .v2]

/-- The scheme of a tag. -/
def ofTag? (tag : String) : Option ApiVersion := all.find? fun version => version.tag == tag

/-- The known tags, as messages list them. -/
def knownTags : String :=
  "[" ++ String.intercalate ", " (all.map fun version => Text.quoted version.tag) ++ "]"

end ApiVersion

/-- A part of a path between slashes. -/
inductive Segment where
  | fixed (text : String)
  | slot (name : String)
deriving DecidableEq, Repr

/-- A request line with slots in its path. -/
structure Template where
  method : Method
  segments : List Segment
deriving DecidableEq, Repr

/-- The names of the slots, in order. -/
def Template.slots (t : Template) : List String :=
  t.segments.filterMap fun
    | .slot name => some name
    | .fixed _ => none

/-- A value for a slot. -/
inductive PathValue where
  | none
  | text (t : Text)
  | int (n : Int)
  | bool (b : Bool)
  | real (x : Float)
deriving Inhabited

/-- Why a value cannot be written. -/
inductive WritingFault where
  | tooManyDigits
  | unencodable (text : Text)
deriving DecidableEq, Repr

/-- How a call fails for a value that cannot be written. -/
def WritingFault.toFailure {τ : Type} : WritingFault → Failure τ
  | .tooManyDigits => .argument .tooManyDigits
  | .unencodable text => .unencodable text

namespace PathValue

/-- The value as a string. -/
def asText : PathValue → Except WritingFault String
  | .none => .ok "None"
  | .text t => match t.toString? with
    | some s => .ok s
    | Option.none => .error (.unencodable t)
  | .int n => match Decimal.writeWhole? n with
    | some s => .ok s
    | Option.none => .error .tooManyDigits
  | .bool b => .ok (if b then "True" else "False")
  | .real x => .ok (Decimal.render x)

/-- The value fills no slot. -/
def isMissing : PathValue → Bool
  | .none => true
  | .text t => t.isEmpty
  | _ => false

end PathValue

/-- Values for slots, by name. -/
abbrev PathValues := List (String × PathValue)

/-- The value for a slot. -/
def PathValues.get (values : PathValues) (name : String) : PathValue :=
  ((values.find? fun value => value.1 == name).map (·.2)).getD .none

/-- Pairs of a query, in order. -/
abbrev Query := List (String × String)

/-- A resolved request: method, path and query. -/
structure Route where
  method : Method
  path : String
  query : Query := []
deriving DecidableEq, Repr

/-- Why a call resolves to no request. -/
inductive RouteFault where
  | unknownVersion (tag : String)
  | unknownOperation (name : String)
  | simulatorOnly (op : Operation)
  | missingValues (op : Operation) (slots : List String)
  | unwritable (fault : WritingFault)
deriving DecidableEq, Repr

namespace RouteFault

/-- How a call fails that resolves to no request. For a value that cannot be written it fails as
writing does, else with a fatal error; no request has been made. -/
def toFailure {τ : Type} : RouteFault → Failure τ
  | .unknownVersion tag => fatal
    ("unknown API version " ++ Text.quoted tag ++ " (known: " ++ ApiVersion.knownTags ++ ")")
  | .unknownOperation name => fatal ("unknown operation " ++ Text.quoted name)
  | .simulatorOnly op => fatal (op.name ++ " is only available against a chain simulator")
  | .missingValues op slots =>
    fatal (op.name ++ " requires path parameter(s): " ++ String.intercalate ", " slots)
  | .unwritable fault => fault.toFailure
where
  /-- An error of the caller's that no retry mends. -/
  fatal (message : String) : Failure τ := .api { kind := .fatal, message }

end RouteFault

/-- The request lines of the operations in a path scheme. -/
def template (version : ApiVersion) : Operation → Template
  | .networkConfig => ⟨.get, [.fixed "network", .fixed "config"]⟩
  | .networkStatus => ⟨.get, [.fixed "network", .fixed "status", .slot "shard"]⟩
  | .networkEconomics => ⟨.get, [.fixed "network", .fixed "economics"]⟩
  | .account => ⟨.get, [.fixed "address", .slot "address"]⟩
  | .accountStorageKey => ⟨.get, [.fixed "address", .slot "address", .fixed "key", .slot "key"]⟩
  | .accountTokens => ⟨.get, [.fixed "address", .slot "address", .fixed "dcdt"]⟩
  | .sendTransaction => ⟨.post, [.fixed "transaction", .fixed "send"]⟩
  | .sendTransactions => ⟨.post, [.fixed "transaction", .fixed "send-multiple"]⟩
  | .transactionCost => ⟨.post, [.fixed "transaction", .fixed "cost"]⟩
  | .transaction => ⟨.get, [.fixed "transaction", .slot "hash"]⟩
  | .transactionStatus => ⟨.get, [.fixed "transaction", .slot "hash",
      .fixed (match version with | .v1 => "status" | .v2 => "process-status")]⟩
  | .token => match version with
    | .v1 => ⟨.get, [.fixed "network", .fixed "dcdt", .fixed "token", .slot "identifier"]⟩
    | .v2 => ⟨.get, [.fixed "tokens", .slot "identifier"]⟩
  | .vmQuery => ⟨.post, [.fixed "vm-values", .fixed "query"]⟩
  | .hyperblockByNonce => ⟨.get, [.fixed "hyperblock", .fixed "by-nonce", .slot "nonce"]⟩
  | .hyperblockByHash => ⟨.get, [.fixed "hyperblock", .fixed "by-hash", .slot "hash"]⟩
  | .simulatorGenerateBlocks =>
    ⟨.post, [.fixed "simulator", .fixed "generate-blocks", .slot "count"]⟩
  | .simulatorGenerateUntilTx =>
    ⟨.post, [.fixed "simulator", .fixed "generate-blocks-until-transaction-processed",
      .slot "hash"]⟩
  | .simulatorGenerateUntilEpoch =>
    ⟨.post, [.fixed "simulator", .fixed "generate-blocks-until-epoch-reached", .slot "epoch"]⟩
  | .simulatorSetState => ⟨.post, [.fixed "simulator", .fixed "set-state"]⟩
  | .simulatorInitialWallets => ⟨.get, [.fixed "simulator", .fixed "initial-wallets"]⟩

/-- A path scheme, for a real network or for a simulator. -/
structure Catalog where
  version : ApiVersion := .v1
  simulator : Bool := false
deriving DecidableEq, Repr, Inhabited

namespace Catalog

/-- The catalog of a version tag. -/
def ofTag (tag : String) (simulator : Bool) : Except RouteFault Catalog :=
  match ApiVersion.ofTag? tag with
  | some version => .ok { version, simulator }
  | none => .error (.unknownVersion tag)

/-- A segment as it stands in the path. -/
def fillSegment (values : PathValues) : Segment → Except WritingFault String
  | .fixed text => .ok text
  | .slot name => (values.get name).asText.map Percent.encode

/-- The path of a template with its slots filled. -/
def fillPath (t : Template) (values : PathValues) : Except WritingFault String :=
  (t.segments.mapM (fillSegment values)).map fun segments =>
    String.join (segments.map ("/" ++ ·))

/-- The request for an operation. Every slot of its path needs a value that can be written. -/
def route (c : Catalog) (op : Operation) (values : PathValues) (query : Query) :
    Except RouteFault Route :=
  if op.simulatorOnly && !c.simulator then .error (.simulatorOnly op)
  else
    let t := template c.version op
    let missing := t.slots.filter fun name => (values.get name).isMissing
    if missing.isEmpty then
      match fillPath t values with
      | .ok path => .ok { method := t.method, path, query }
      | .error fault => .error (.unwritable fault)
    else .error (.missingValues op missing)

/-- The request for an operation that is given by name. -/
def resolve (c : Catalog) (name : String) (values : PathValues) (query : Query) :
    Except RouteFault Route :=
  match Operation.ofName? name with
  | some op => c.route op values query
  | none => .error (.unknownOperation name)

end Catalog

/-- The absolute URL of a route below a base URL. -/
def Route.url (baseUrl : String) (r : Route) : String :=
  baseUrl ++ r.path ++ if r.query.isEmpty then "" else "?" ++ Percent.encodeQuery r.query

end GatewayClient
