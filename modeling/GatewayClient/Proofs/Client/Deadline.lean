import GatewayClient.Proofs.Client.Cancelling
import GatewayClient.Proofs.Client.Pacing
import GatewayClient.Proofs.Retry.Budget

/-!
# What a deadline bounds

A call keeps to the deadline of its policy: none of its requests begins later than that after the
first one, and it does not sleep longer in all (`Call.within_of_traces`).

**The budget is the call's own** (`Action.MadeOf.within`): an operation that makes several calls
gives the whole budget to each of them. Its requests fall into as many stretches as it makes calls.
-/

set_option autoImplicit false

namespace GatewayClient

variable {σ α : Type}

/-- The times fall into at most so many stretches, one after the other. A stretch is over when so
much time has passed since the first time in it. -/
inductive Stretches (length : Rat) : Nat → List Rat → Prop
  | nil (n : Nat) : Stretches length n []
  | cons {n : Nat} {first : Rat} {rest later : List Rat}
      (within : ∀ t ∈ rest, first ≤ t ∧ t ≤ first + length) (more : Stretches length n later) :
      Stretches length (n + 1) (first :: (rest ++ later))

namespace Stretches

variable {length : Rat} {m n : Nat} {times later : List Rat}

/-- Fewer stretches are at most so many. -/
theorem mono (h : Stretches length m times) (le : m ≤ n) : Stretches length n times := by
  induction h generalizing n with
  | nil _ => exact .nil n
  | @cons m _ _ _ within _ ih =>
    obtain ⟨n, rfl⟩ : ∃ k, n = k + 1 := ⟨n - 1, by omega⟩
    exact .cons within (ih (by omega))

/-- Stretches of two lists of times, one after the other. -/
theorem append (first : Stretches length m times) (rest : Stretches length n later) :
    Stretches length (m + n) (times ++ later) := by
  induction first with
  | nil m => exact rest.mono (by omega)
  | @cons m _ _ _ within _ ih =>
    rw [List.cons_append, List.append_assoc, Nat.add_right_comm]
    exact .cons within ih

/-- A single stretch begins with the first of the times. -/
theorem of_single {first : Rat} (h : Stretches length 1 (first :: times)) :
    ∀ t ∈ times, first ≤ t ∧ t ≤ first + length := by
  generalize one : 1 = n, all : first :: times = starts at h
  cases h with
  | nil _ => cases all
  | cons within more =>
    cases all
    cases one
    cases more
    rw [List.append_nil]
    exact within

end Stretches

namespace Call

variable {c : Call Rat} {t last deadline : Rat} {log : Log Rat} {starts : List Rat}

/-- A wait that is chosen ends within the deadline, and is not negative. -/
theorem fits_of_chose (budget : c.policy.deadline = some deadline) {started now wait : Rat}
    {before : Log Rat} (chose : c.Chose started before now wait) :
    Log.Fits started deadline now wait := by
  obtain ⟨_, e, _, delay, -, -, -, next, rfl⟩ := chose
  have natural : 0 ≤ delay := RetryPolicy.nextDelay_nonneg next
  have within : delay ≤ deadline - (now - started) := RetryPolicy.nextDelay_le budget next
  have longer : delay ≤ c.waitFor delay (now - started) e := RetryPolicy.le_honour e.retryAfter
  exact ⟨Rat.le_trans natural longer, RetryPolicy.honour_le budget within e.retryAfter⟩

/-- The requests of a call begin within the deadline, counted from its first request, and its sleeps
fit in it. -/
theorem within_of_traces {r : Except (Failure Rat) Json.Fields} (h : c.run.Traces log r)
    (budget : c.policy.deadline = some deadline) (positive : 0 ≤ deadline)
    (timed : Log.Timed t log starts last) :
    Stretches deadline 1 starts ∧ log.slept.sum ≤ deadline := by
  obtain ⟨started, rest, rfl, rounds⟩ := rounds_of_traces_run h
  have paced := (rounds.paced [] rfl).mono fun _ _ _ => fits_of_chose budget
  cases timed with
  | clock timed =>
    have slept : rest.slept.sum ≤ deadline := by
      have lasts := paced.sum_slept_le timed.advances (by grind)
      grind
    have begun := paced.starts_le timed (by grind)
    rcases paced.begins timed with rfl | ⟨later, rfl⟩
    · exact ⟨.nil 1, slept⟩
    · have one := Stretches.cons (List.forall_mem_cons.mp begun).2 (.nil 0)
      rw [List.append_nil] at one
      exact ⟨one, slept⟩

end Call

namespace Action

variable {p : RetryPolicy Rat} {watching : Bool} {n : Nat} {x : Action Rat α}
variable {log : Log Rat} {r : Except (Failure Rat) α} {t last deadline : Rat} {starts : List Rat}

/-- An action made of calls gives the budget to each of them. -/
theorem MadeOf.within (h : MadeOf p watching n x) (budget : p.deadline = some deadline)
    (positive : 0 ≤ deadline) (traces : x.Traces log r) (timed : Log.Timed t log starts last) :
    Stretches deadline n starts ∧ log.slept.sum ≤ n * deadline := by
  have natural : ∀ n : Nat, 0 ≤ n * deadline :=
    fun n => Rat.mul_nonneg Rat.natCast_nonneg positive
  induction h generalizing log t starts last with
  | @aside _ n _ quiet =>
    have warns := quiet.quiet traces
    obtain ⟨rfl, -⟩ := timed.of_quiet (Log.acts_of_warns warns)
    rw [← Log.slept_acts, Log.acts_of_warns warns]
    exact ⟨.nil n, natural n⟩
  | call under =>
    obtain ⟨stretches, slept⟩ := Call.within_of_traces traces (under.policy ▸ budget) positive timed
    exact ⟨stretches, by grind⟩
  | @bind _ _ m n _ _ _ _ first next =>
    rcases traces_bind traces with ⟨failure, rfl, cut⟩ | ⟨began, a, more, rfl, went, followed⟩
    · obtain ⟨stretches, slept⟩ := first cut timed
      have others := natural n
      exact ⟨stretches.mono (Nat.le_add_right m n), by grind⟩
    · obtain ⟨middle, early, late, rfl, before, after⟩ := timed.split
      obtain ⟨stretches, slept⟩ := first went before
      obtain ⟨others, rested⟩ := next a followed after
      rw [Log.slept_append, List.sum_append]
      exact ⟨stretches.append others, by grind⟩

end Action
end GatewayClient
