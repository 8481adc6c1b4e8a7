import GatewayClient.Endpoint.Catalog

/-!
# HTTP requests
-/

set_option autoImplicit false

namespace GatewayClient

/-- A request as it goes out: the method, the absolute URL with its query, the body, and how long
to wait for an answer. -/
structure Request (τ : Type) where
  method : Method
  url : String
  body : Option Bytes
  timeout : τ
deriving DecidableEq, Repr

end GatewayClient
