import GatewayClient.Proofs.Client.RetryLaw
import GatewayClient.Proofs.Program.Reaches

/-!
# The attempts of a call, step by step

One attempt looks at the event, sends the request and meets the answer (`Call.met`). Here a world
answers, so there is one next step and not all that are possible (`Call.Rounds` says those): an
attempt is stopped where the event is set (`Call.reaches_stopped`), and else it comes to what is met
(`Call.reaches_met`).
-/

set_option autoImplicit false

namespace GatewayClient

variable {σ τ : Type} [TimeScale τ]

namespace Call

/-- What a call makes of the answer to a request after some earlier ones. A failure that may pass is
left to `retry`. -/
def met (c : Call τ) (made : Nat) (retry : ApiError τ → Action τ Json.Fields) :
    Option Outcome → Action τ Json.Fields
  | none => Action.raise (c.cancelledError (made + 1))
  | some outcome =>
    match (outcome.payload : Except (ApiError τ) Json.Fields) with
    | .ok data => pure data
    | .error e =>
      if e.retryable && c.idempotent then retry (e.counting (made + 1))
      else Action.raise (e.counting (made + 1))

/-- How a call goes on after a failure that may pass, with the delay of its policy if another
attempt follows. -/
def resume (c : Call τ) (started : τ) (left made : Nat) (error : ApiError τ) (elapsed : τ) :
    Option τ → Action τ Json.Fields
  | none => Action.raise (c.gaveUpError (made + 1) error)
  | some delay => do
    let wait := c.policy.honour delay elapsed error.retryAfter
    Action.warn (.retrying c.operation.name error wait (made + 1) c.policy.maxAttempts)
    if ← Action.pause wait c.watching then c.attempts started left (made + 1)
    else Action.raise (c.cancelledError (made + 1))

/-- What a call does about a failure that may pass, where some attempts are left. -/
def again (c : Call τ) (started : τ) (left made : Nat) (error : ApiError τ) :
    Action τ Json.Fields := do
  let now ← Action.clock
  match left with
  | 0 => Action.raise (c.gaveUpError (made + 1) error)
  | left + 1 =>
    let next ← c.policy.schedule made (now - started) (error.kind == .rateLimited)
    c.resume started left made error (now - started) next

variable {c : Call τ} {started : τ} {left made : Nat}

section Met

variable {outcome : Outcome} {e : ApiError τ} {retry : ApiError τ → Action τ Json.Fields}

/-- A payload ends the call. -/
theorem met_of_payload {data : Json.Fields}
    (payload : (outcome.payload : Except (ApiError τ) Json.Fields) = .ok data) :
    c.met made retry (some outcome) = pure data := by
  simp only [met, payload]

/-- A failure that stays, or that may not be tried again, ends the call with the requests counted.
-/
theorem met_of_final (failed : outcome.payload = .error e)
    (final : (e.retryable && c.idempotent) = false) :
    c.met made retry (some outcome) = Action.raise (e.counting (made + 1)) := by
  simp only [met, failed, final, Bool.false_eq_true, if_false]

/-- A failure that may pass is left to what follows, with the requests counted. -/
theorem met_of_retryable (failed : outcome.payload = .error e)
    (retryable : (e.retryable && c.idempotent) = true) :
    c.met made retry (some outcome) = retry (e.counting (made + 1)) := by
  simp only [met, failed, retryable, if_true]

end Met

/-- An attempt looks, sends, and meets the answer. -/
theorem attempts_eq : c.attempts started left made = (do
    if ← Action.isCancelled c.watching then Action.raise (c.cancelledError made)
    else
      let answer ← Action.send c.request c.watching
      c.met made (c.again started left made) answer) := by
  cases left with
  | zero => rfl
  | succ left => rfl

variable {w : World σ τ} {s : σ}

/-- An attempt that finds the event set makes no request. -/
theorem reaches_stopped (still : w.Still) (set : w.sees c.watching s = true) :
    Action.Reaches w (c.attempts started left made) s [] (Action.raise (c.cancelledError made))
      s := by
  rw [attempts_eq]
  refine (Action.reaches_isCancelled still c.watching _).after ?_
  rw [set]
  exact .refl

/-- An attempt that is not stopped meets the answer of its request. -/
theorem reaches_met (still : w.Still) (unset : w.sees c.watching s = false) :
    Action.Reaches w (c.attempts started left made) s
      [.sent c.request (w.ask c.request c.watching s).1]
      (c.met made (c.again started left made) (w.ask c.request c.watching s).1)
      (w.ask c.request c.watching s).2 := by
  rw [attempts_eq]
  refine (Action.reaches_isCancelled still c.watching _).after ?_
  rw [unset]
  exact Action.reaches_send c.request c.watching _

end Call
end GatewayClient
