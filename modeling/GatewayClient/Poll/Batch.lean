import GatewayClient.Poll.Basic
import GatewayClient.Program.World

/-!
# Waiting for several transactions

Each hash has a poll of its own, however often it is given. The polls share nothing, so each of
them runs in a world of its own, and what one of them does is not seen by the others.
-/

set_option autoImplicit false

namespace GatewayClient

variable {σ τ : Type} [TimeScale τ]

/-- The run of one poll among several. -/
structure PollRun (σ τ : Type) where
  hash : String
  run : Run σ τ (Except (Failure τ) (PollResult τ))

namespace Poll

/-- The polls of several transactions, one for each hash, in the order of their first mention. -/
def many (p : Poll τ) (hashes : List String) : List (Poll τ) :=
  hashes.eraseDups.map fun hash => { p with hash }

/-- Run a poll for each hash, all from the same state. -/
def runMany (p : Poll τ) (hashes : List String) (w : World σ τ) (s : σ) : List (PollRun σ τ) :=
  (p.many hashes).map fun poll => ⟨poll.hash, Program.run w poll.run s⟩

end Poll

namespace PollRun

/-- The argument that the poll refused. -/
def refusal? (r : PollRun σ τ) : Option (Failure τ) :=
  match r.run.result with
  | .error (.argument fault) => some (.argument fault)
  | _ => none

/-- The result of the poll under its hash. -/
def settled (r : PollRun σ τ) : Except (Failure τ) (String × PollResult τ) :=
  r.run.result.map fun result => (r.hash, result)

/-- The results of all polls. A refused argument fails the whole, as it is refused before any
poll waits; else the first failure does. -/
def gather (runs : List (PollRun σ τ)) : Except (Failure τ) (List (String × PollResult τ)) :=
  match runs.findSome? refusal? with
  | some failure => .error failure
  | none => runs.mapM settled

end PollRun
end GatewayClient
