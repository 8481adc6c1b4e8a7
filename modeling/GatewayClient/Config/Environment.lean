import GatewayClient.Config.Basic
import GatewayClient.Text.Blank
import GatewayClient.Text.LowerCase

/-!
# Configuration from the environment

Six variables under a common prefix set the base URL, the path scheme, the timeout, the number of
attempts, the first delay and the simulator flag. A variable that is not set leaves its default.
Blanks around a value do not count.
-/

set_option autoImplicit false

namespace GatewayClient

/-- Variables and their values. -/
abbrev Environment := List (String × String)

/-- Why an environment makes no configuration. -/
inductive EnvironmentFault (τ : Type) where
  | notNumber (name value : String)
  | notWhole (name value : String)
  | notBoolean (name value : String)
  | policy (fault : PolicyFault τ)
  | config (fault : ConfigFault τ)

variable {τ : Type} [TimeScale τ]

/-- What is reported for a fault. -/
def EnvironmentFault.message : EnvironmentFault τ → String
  | .notNumber name value => name ++ " must be a number, got: " ++ Text.quoted value
  | .notWhole name value => name ++ " must be an integer, got: " ++ Text.quoted value
  | .notBoolean name value => name ++ " must be a boolean, got: " ++ Text.quoted value
  | .policy fault => fault.message
  | .config fault => fault.message

namespace Environment

/-- The prefix of the variables' names. -/
def defaultPrefix : String := "DHARITRI_"

/-- Words for yes, in any case. -/
def yesWords : List String := ["1", "true", "yes", "on"]

/-- Words for no, in any case; an empty value is one of them. -/
def noWords : List String := ["0", "false", "no", "off", ""]

/-- The flag that a word sets. -/
def flag? (word : String) : Option Bool :=
  if yesWords.contains (Text.lower word) then some true
  else if noWords.contains (Text.lower word) then some false
  else none

/-- The value of a variable without the blanks around it. -/
def value? (env : Environment) (name : String) : Option String :=
  (env.find? fun entry => entry.1 == name).map fun entry => Text.strip entry.2

/-- Read a variable if it is set, and refuse a value that says nothing. -/
def read {α : Type} (env : Environment) (name : String) (parse? : String → Option α)
    (fault : String → String → EnvironmentFault τ) : Except (EnvironmentFault τ) (Option α) :=
  match env.value? name with
  | none => .ok none
  | some value =>
    match parse? value with
    | some a => .ok (some a)
    | none => .error (fault name value)

/-- The retry policy, which is the default one unless a variable changes it. -/
def retryPolicy (attempts : Option Int) (baseDelay : Option τ) :
    Except (EnvironmentFault τ) (RetryPolicy τ) :=
  if attempts.isNone && baseDelay.isNone then .ok {}
  else
    let d : RetryPolicy τ := {}
    ({ d with maxAttempts := attempts.getD d.maxAttempts
              baseDelay := baseDelay.getD d.baseDelay } : RetryPolicy τ).checked.mapError .policy

/-- The configuration that an environment describes. -/
def config (env : Environment) (lead : String) : Except (EnvironmentFault τ) (Config τ) := do
  let timeout ← env.read (lead ++ "TIMEOUT") TimeScale.parse? .notNumber
  let attempts ← env.read (lead ++ "MAX_ATTEMPTS") Decimal.wholeNumber? .notWhole
  let baseDelay ← env.read (lead ++ "BASE_DELAY") TimeScale.parse? .notNumber
  let retry ← retryPolicy attempts baseDelay
  let simulator ← env.read (lead ++ "SIMULATOR") flag? .notBoolean
  let d : ConfigSettings τ := {}
  (Config.ofSettings
    { d with baseUrl := (env.value? (lead ++ "GATEWAY_URL")).getD d.baseUrl
             apiVersion := (env.value? (lead ++ "API_VERSION")).getD d.apiVersion
             timeout := timeout.getD d.timeout
             retry := retry
             simulator := simulator.getD d.simulator }).mapError .config

end Environment
end GatewayClient
