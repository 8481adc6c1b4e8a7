import GatewayClient.Endpoint.Catalog
import GatewayClient.Retry.Policy

/-!
# Client configuration

Which node a client talks to and in which path scheme, how long it waits for an answer, how it
retries, and whether the target is a chain simulator.
-/

set_option autoImplicit false

namespace GatewayClient

/-- The base URL of the public network for development. -/
def devnetGateway : String := "https://devnet-gateway.dharitri.org"

/-- The base URL of a chain simulator on this machine. -/
def simulatorGateway : String := "http://localhost:8085"

/-- The user agent of a client that is given none. -/
def defaultUserAgent : String := "dharitri-sdk-http/0.1"

/-- The fields of a configuration, before anything is known of them. -/
structure ConfigSettings (τ : Type) [TimeScale τ] where
  baseUrl : String := devnetGateway
  apiVersion : String := "v1"
  timeout : τ := 30.0
  retry : RetryPolicy τ := {}
  simulator : Bool := false
  userAgent : String := defaultUserAgent

/-- A configuration: its base URL has no slash at the end, and its path scheme is known. -/
structure Config (τ : Type) [TimeScale τ] where
  baseUrl : String
  apiVersion : ApiVersion
  timeout : τ
  retry : RetryPolicy τ
  simulator : Bool
  userAgent : String

/-- Why settings make no configuration. -/
inductive ConfigFault (τ : Type) where
  | emptyUrl
  | notHttp (baseUrl : String)
  | unknownVersion (tag : String)
  | timeout (got : τ)

variable {τ : Type} [TimeScale τ]

/-- What is reported for a fault. -/
def ConfigFault.message : ConfigFault τ → String
  | .emptyUrl => "base_url must be non-empty"
  | .notHttp baseUrl => "base_url must be an http(s) URL, got: " ++ Text.quoted baseUrl
  | .unknownVersion tag =>
    "api_version must be one of " ++ ApiVersion.knownTags ++ ", got: " ++ Text.quoted tag
  | .timeout got => "timeout must be > 0, got: " ++ TimeScale.display got

namespace Config

/-- The schemes that a base URL may have. -/
def isHttpUrl (url : String) : Bool :=
  "http://".toList.isPrefixOf url.toList || "https://".toList.isPrefixOf url.toList

/-- A URL without the slashes at its end. -/
def trimSlashes (url : String) : String :=
  String.ofList (url.toList.reverse.dropWhile (· == '/')).reverse

/-- The configuration of the settings, or their first fault. -/
def ofSettings (s : ConfigSettings τ) : Except (ConfigFault τ) (Config τ) :=
  if s.baseUrl.isEmpty then .error .emptyUrl
  else if !isHttpUrl s.baseUrl then .error (.notHttp s.baseUrl)
  else match ApiVersion.ofTag? s.apiVersion with
    | none => .error (.unknownVersion s.apiVersion)
    | some apiVersion =>
      if TimeScale.le s.timeout 0.0 then .error (.timeout s.timeout)
      else .ok
        { baseUrl := trimSlashes s.baseUrl
          apiVersion
          timeout := s.timeout
          retry := s.retry
          simulator := s.simulator
          userAgent := s.userAgent }

/-- The settings that a configuration is made of. -/
def toSettings (c : Config τ) : ConfigSettings τ :=
  { baseUrl := c.baseUrl
    apiVersion := c.apiVersion.tag
    timeout := c.timeout
    retry := c.retry
    simulator := c.simulator
    userAgent := c.userAgent }

/-- Settings for a local chain simulator. -/
def simulatorSettings : ConfigSettings τ := { baseUrl := simulatorGateway, simulator := true }

/-- The catalog that the client resolves its calls in. -/
def catalog (c : Config τ) : Catalog := { version := c.apiVersion, simulator := c.simulator }

end Config
end GatewayClient
