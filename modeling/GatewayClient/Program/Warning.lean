import GatewayClient.ApiError
import GatewayClient.Json.Value
import GatewayClient.Decimal.Binary64
import GatewayClient.Text.Quoted

/-!
# Warnings

What a client reports beside its result: something went wrong that it copes with, or that its
caller may not see in the result.
-/

set_option autoImplicit false

namespace GatewayClient

/-- Which part of the client a warning comes from. -/
inductive WarningSource where
  | statusTable
  | client
  | poller
  | simulator
deriving DecidableEq, Repr

/-- Something worth a warning. -/
inductive Warning (τ : Type) where
  | unknownStatus (word : Text)
  | retrying (operation : String) (error : ApiError τ) (delay : τ) (attempt : Nat)
      (maxAttempts : Int)
  | hashCount (reported : Number) (returned : Nat)
  | checkFailed (hash : String) (error : ApiError τ)
  | pollStopped (hash : String) (error : ApiError τ)
  | pollGaveUp (hash : String) (checks : Nat) (elapsed : τ)
  | stillPending (hash status : Text) (blocks : Int)

namespace Warning

variable {τ : Type}

/-- The part of the client that a warning comes from. -/
def source : Warning τ → WarningSource
  | .unknownStatus .. => .statusTable
  | .retrying .. | .hashCount .. => .client
  | .checkFailed .. | .pollStopped .. | .pollGaveUp .. => .poller
  | .stillPending .. => .simulator

/-- A count that may have come as a double, without its fractional part. -/
def wholeText : Number → String
  | .int n => toString n
  | .real x => toString (Decimal.truncate x)

/-- The text of a warning. -/
def message [TimeScale τ] : Warning τ → Text
  | .unknownStatus word =>
    ("unknown transaction status " ++ Text.quoted word ++ ", treating as pending" : String)
  | .retrying operation error delay attempt maxAttempts =>
    operation ++ " failed (" ++ error.summary ++ "), retrying in " ++ TimeScale.fixed 2 delay
      ++ "s [attempt " ++ toString attempt ++ "/" ++ toString maxAttempts ++ "]"
  | .hashCount reported returned =>
    ("node reported " ++ wholeText reported ++ " sent transactions but returned "
      ++ toString returned ++ " hashes" : String)
  | .checkFailed hash error => "status check for " ++ hash ++ " failed: " ++ error.summary
  | .pollStopped hash error => "stopping poll of " ++ hash ++ ": " ++ error.summary
  | .pollGaveUp hash checks elapsed =>
    ("gave up on transaction " ++ hash ++ " after " ++ toString checks ++ " check(s) in "
      ++ TimeScale.fixed 1 elapsed ++ "s" : String)
  | .stillPending hash status blocks =>
    "transaction " ++ hash ++ " still " ++ status ++ " after " ++ toString blocks
      ++ " generated block(s)"

end Warning
end GatewayClient
