import GatewayClient.Proofs.Poll.Rounds
import GatewayClient.Proofs.Program.Pacing
import GatewayClient.Proofs.Retry.Budget

/-!
# The pace of a poll

A poll sleeps between two checks, for as long as its policy says after the first of them
(`Poll.Rounds.paced`). No server has a say in how long that is.
-/

set_option autoImplicit false

namespace GatewayClient.Poll

variable {τ : Type} [TimeScale τ] {p : Poll τ} {started : τ}

/-- What a poll that started at a time chooses to sleep, by the reading of the clock. -/
def Chose (p : Poll τ) (started now delay : τ) : Prop :=
  ∃ index rateLimited chance,
    p.policy.nextDelay index (now - started) rateLimited chance = .ok (some delay)

/-- The rounds of a poll are a log in rounds, whose sleeps were chosen. -/
theorem Rounds.paced {checks : Nat} {seen : Sighting τ} {log : Log τ}
    {r : Except (Failure τ) (PollResult τ)} (h : p.Rounds started checks seen log r)
    (before : Log τ) : Log.Paced (fun _ => p.Chose started) before log := by
  induction h generalizing before with
  | stopped => exact .ends (.inl rfl)
  | abandoned asked | decided asked _ | gaveUp asked _ _ | overflowed asked _ =>
    exact .asked asked rfl
  | interrupted asked _ next paused =>
    exact .paused asked (RetryPolicy.acts_drawLog _ _) (RetryPolicy.readings_drawLog _ _) paused
      (fun _ => rfl) (fun _ _ _ _ => ⟨_, _, _, next⟩) nofun
  | again asked _ next paused _ ih =>
    exact .paused asked (RetryPolicy.acts_drawLog _ _) (RetryPolicy.readings_drawLog _ _) paused
      nofun (fun _ _ _ _ => ⟨_, _, _, next⟩) fun _ => ih _

/-- A delay that is chosen ends within the deadline, and is not negative. -/
theorem fits_of_chose {p : Poll Rat} {started now delay deadline : Rat}
    (budget : p.policy.deadline = some deadline) (chose : p.Chose started now delay) :
    Log.Fits started deadline now delay := by
  obtain ⟨_, _, _, next⟩ := chose
  exact ⟨RetryPolicy.nextDelay_nonneg next, RetryPolicy.nextDelay_le budget next⟩

end GatewayClient.Poll
