import GatewayClient.Failure
import GatewayClient.Http.Outcome
import GatewayClient.Http.Request
import GatewayClient.Program.Warning

/-!
# Programs

An operation of the client is a program: a tree of what it does to the world around it, and of
how it goes on with each answer. Programs send requests, sleep, read the clock, look at the cancel
event, draw random numbers and report warnings. They do nothing else, and nothing happens until a
world runs them.

A request that is watched for cancellation may remain without answer: it is abandoned when the
event fires first. A request that is not watched is always answered.
-/

set_option autoImplicit false

namespace GatewayClient

/-- What an operation does, step by step, until it is done. -/
inductive Program (τ α : Type) where
  | done (result : α)
  | send (request : Request τ) (next : Outcome → Program τ α)
  | sendWatched (request : Request τ) (next : Option Outcome → Program τ α)
  | sleep (delay : τ) (next : Program τ α)
  | clock (next : τ → Program τ α)
  | cancelled (next : Bool → Program τ α)
  | draw (source : Nat) (next : τ → Program τ α)
  | warn (warning : Warning τ) (next : Program τ α)

namespace Program

variable {τ α β : Type}

/-- Go on with a second program where the first one is done. -/
def andThen : Program τ α → (α → Program τ β) → Program τ β
  | done result, f => f result
  | send request next, f => send request fun answer => (next answer).andThen f
  | sendWatched request next, f => sendWatched request fun answer => (next answer).andThen f
  | sleep delay next, f => sleep delay (next.andThen f)
  | clock next, f => clock fun now => (next now).andThen f
  | cancelled next, f => cancelled fun isSet => (next isSet).andThen f
  | draw source next, f => draw source fun chance => (next chance).andThen f
  | warn warning next, f => warn warning (next.andThen f)

instance : Monad (Program τ) where
  pure := done
  bind := andThen

@[simp] theorem pure_eq (a : α) : (pure a : Program τ α) = done a := rfl

@[simp] theorem bind_eq (p : Program τ α) (f : α → Program τ β) : p >>= f = p.andThen f := rfl

/-- Going on with nothing changes nothing. -/
theorem andThen_done (p : Program τ α) : p.andThen done = p := by
  induction p with
  | done _ => rfl
  | sleep _ _ ih | warn _ _ ih => rw [andThen, ih]
  | send _ _ ih | sendWatched _ _ ih | draw _ _ ih => simp [andThen, ih]
  | clock _ ih | cancelled _ ih => simp [andThen, ih]

/-- How the parts of a chain are grouped does not matter. -/
theorem andThen_assoc {γ : Type} (p : Program τ α) (f : α → Program τ β) (g : β → Program τ γ) :
    (p.andThen f).andThen g = p.andThen fun a => (f a).andThen g := by
  induction p with
  | done _ => rfl
  | sleep _ _ ih | warn _ _ ih => simp only [andThen, ih]
  | send _ _ ih | sendWatched _ _ ih | draw _ _ ih => simp [andThen, ih]
  | clock _ ih | cancelled _ ih => simp [andThen, ih]

end Program

/-- A program that ends with a result or a failure. -/
abbrev Action (τ α : Type) := ExceptT (Failure τ) (Program τ) α

namespace Action

variable {τ α : Type}

/-- End with a failure. -/
def fail (failure : Failure τ) : Action τ α := ExceptT.mk (.done (.error failure))

/-- End with an error of the gateway. -/
def raise (error : ApiError τ) : Action τ α := fail (.api error)

/-- Refuse an argument. -/
def refuse (fault : ArgumentFault) : Action τ α := fail (.argument fault)

/-- Report a warning. -/
def warn (warning : Warning τ) : Action τ Unit := ExceptT.mk (.warn warning (.done (.ok ())))

/-- The clock's reading. -/
def clock : Action τ τ := ExceptT.mk (.clock fun now => .done (.ok now))

/-- Sleep for a while. -/
def sleep (delay : τ) : Action τ Unit := ExceptT.mk (.sleep delay (.done (.ok ())))

/-- A random number of `[0, 1)` from a source. -/
def draw (source : Nat) : Action τ τ :=
  ExceptT.mk (.draw source fun chance => .done (.ok chance))

/-- The cancel event is set; without an event, never. -/
def isCancelled (watching : Bool) : Action τ Bool :=
  if watching then ExceptT.mk (.cancelled fun isSet => .done (.ok isSet)) else pure false

/-- Send a request. The answer is missing if the request was watched and abandoned. -/
def send (request : Request τ) (watching : Bool) : Action τ (Option Outcome) :=
  if watching then ExceptT.mk (.sendWatched request fun answer => .done (.ok answer))
  else ExceptT.mk (.send request fun answer => .done (.ok (some answer)))

/-- The result of a computation that may fail. -/
def lift {ε : Type} (failure : ε → Failure τ) : Except ε α → Action τ α
  | .ok a => pure a
  | .error e => fail (failure e)

/-- What must be there; `what` names it where it is not. -/
def expect (what : String) : Option α → Action τ α
  | some a => pure a
  | none => fail (.undecodable what)

/-- Sleep, unless the cancel event is set or fires meanwhile; true for a full sleep. -/
def pause (delay : τ) (watching : Bool) : Action τ Bool := do
  if ← isCancelled watching then return false
  sleep delay
  return !(← isCancelled watching)

end Action
end GatewayClient
