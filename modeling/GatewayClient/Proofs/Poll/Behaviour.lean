import GatewayClient.Proofs.Client.Reads

/-!
# How polls behave

A poll turns the errors of the gateway into results, so none of them is left to fail it
(`Poll.behaves_run`). Like the reads that it is made of, it sends no transactions.

What is said of a poll's steps follows from what is said of its queries and of its draws
(`Poll.ensures_run`), whatever it is.
-/

set_option autoImplicit false

namespace GatewayClient

variable {τ α : Type}

/-- The traces of an action whose errors are results. -/
theorem Action.traces_attempt {x : Action τ α} {log : Log τ}
    {r : Except (Failure τ) (Except (ApiError τ) α)} (h : x.attempt.Traces log r) :
    ∃ outcome, x.Traces log outcome ∧ r = match outcome with
      | .ok a => .ok (.ok a)
      | .error (.api e) => .ok (.error e)
      | .error failure => .error failure := by
  obtain ⟨first, outcome, rest, rfl, traces, ended⟩ := Program.traces_andThen h
  refine ⟨outcome, ?_, ?_⟩
  · cases outcome with
    | ok a => cases ended; exact (List.append_nil first).symm ▸ traces
    | error failure => cases failure <;> cases ended <;> exact (List.append_nil first).symm ▸ traces
  · cases outcome with
    | ok a => cases ended; rfl
    | error failure => cases failure <;> cases ended <;> rfl

/-- What is left to fail when the errors of the gateway are results. -/
theorem Action.Ensures.attempt {x : Action τ α} {P : Event τ → Prop} {F : Failure τ → Prop}
    {R : α → Prop} (h : x.Ensures P F R) :
    x.attempt.Ensures P (fun failure => F failure ∧ ∀ e, failure ≠ .api e) fun _ => True := by
  intro log r traces
  obtain ⟨outcome, within, rfl⟩ := Action.traces_attempt traces
  obtain ⟨steps, met⟩ := h within
  refine ⟨steps, ?_⟩
  cases outcome with
  | ok a => trivial
  | error failure =>
    cases failure with
    | api e => trivial
    | argument _ | unencodable _ | overflow _ | undecodable _ => exact ⟨met, nofun⟩

variable [TimeScale τ]

namespace Poll

/-- The failures that are expected of a poll. Errors of the gateway are not among them. -/
def Expected (p : Poll τ) (failure : Failure τ) : Prop :=
  failure.Expected (p.hash ≠ "") p.policy ∧ ∀ e, failure ≠ .api e

/-- What a poll promises of its parts. -/
abbrev Behaves (p : Poll τ) (x : Action τ α) : Prop :=
  x.Ensures (Event.Routed p.client fun op => op.broadcasts = false) p.Expected fun _ => True

/-- All that a poll does is of a kind: its queries, what it draws where its policy has jitter, and
whatever else goes unnoticed or only passes the time. -/
structure Does (p : Poll τ) (P : Event τ → Prop) : Prop where
  queries : Program.Keeps P (p.client.getTransaction p.hash p.withResults
    { policy := some .single, watching := p.watching }).run
  draws : p.policy.isJittered = true → ∀ source chance, P (.drew source chance)
  others : ∀ e, e.sent? = none → e.isDraw = false → P e

section Parts

variable {p : Poll τ} {P : Event τ → Prop} (does : p.Does P) (started : τ) (checks : Nat)
include does

theorem ensures_finish (outcome : PollOutcome) (seen : Sighting τ) :
    (finish outcome started checks seen).Ensures P p.Expected fun _ => True :=
  (Action.Ensures.clock fun _ => does.others _ rfl rfl).bind fun _ _ => .pure trivial

/-- To give up is to warn and to finish. -/
theorem ensures_giveUp (seen : Sighting τ) (elapsed : τ) :
    (p.giveUp started checks seen elapsed).Ensures P p.Expected fun _ => True :=
  (Action.Ensures.warn (does.others _ rfl rfl)).bind fun _ _ =>
    ensures_finish does started checks .timedOut seen

/-- The errors of a query do not fail the poll. -/
theorem ensures_query : (p.client.getTransaction p.hash p.withResults
    { policy := some .single, watching := p.watching }).attempt.Ensures P p.Expected
      fun _ => True := by
  have query := p.client.behaves_getTransaction
    { policy := some .single, watching := p.watching } p.hash p.withResults
    (fun filled : p.hash ≠ "" => Text.filled_coe filled)
    fun _ => Text.isSome_toString?_coe p.hash
  refine (query.keeping does.queries).attempt.mono (fun _ h => h) (fun failure h => ⟨?_, h.2⟩)
    fun _ _ => trivial
  exact h.1.imp id fun overflows => absurd overflows RetryPolicy.not_overflows_single

/-- A check is of the kind if what follows it is. -/
theorem ensures_check (seen : Sighting τ) {wait : Sighting τ → Bool → Action τ (PollResult τ)}
    (waits : ∀ seen rateLimited, (wait seen rateLimited).Ensures P p.Expected fun _ => True) :
    (p.check started checks seen wait).Ensures P p.Expected fun _ => True := by
  have warns (warning : Warning τ) :
      (Action.warn warning).Ensures P p.Expected fun _ => True :=
    Action.Ensures.warn (does.others _ rfl rfl)
  refine (Action.Ensures.isCancelled fun _ => does.others _ rfl rfl).bind fun isSet _ => ?_
  split
  · exact ensures_finish does started checks .cancelled seen
  · refine (ensures_query does).bind fun answer _ => ?_
    split
    next e =>
      split
      next => exact ensures_finish does started _ .cancelled seen
      next =>
        split
        next => exact waits _ _
        next =>
          split
          next => exact (warns _).bind fun _ _ => waits _ _
          next => exact (warns _).bind fun _ _ => ensures_finish does started _ .errored _
    next tx =>
      dsimp only
      split
      next => exact ensures_finish does started _ .succeeded _
      next =>
        split
        next => exact ensures_finish does started _ .failed _
        next => exact waits _ _

/-- All checks are of the kind. The induction is on those that are left. -/
theorem ensures_checkOn (left : Nat) (seen : Sighting τ) :
    (p.checkOn started left checks seen).Ensures P p.Expected fun _ => True := by
  have reads : Action.clock.Ensures P p.Expected fun _ => True :=
    Action.Ensures.clock fun _ => does.others _ rfl rfl
  induction left generalizing checks seen with
  | zero =>
    refine ensures_check does started checks seen fun seen _ => ?_
    exact reads.bind fun now _ => ensures_giveUp does started _ seen (now - started)
  | succ left ih =>
    refine ensures_check does started checks seen fun seen rateLimited => ?_
    refine reads.bind fun now _ => ?_
    have delays : (p.policy.schedule checks (now - started) rateLimited).Ensures P p.Expected
        fun _ => True :=
      RetryPolicy.ensures_schedule does.draws fun overflows _ => ⟨overflows, nofun⟩
    refine delays.bind fun delay? _ => ?_
    split
    · exact ensures_giveUp does started _ seen (now - started)
    · refine (Action.Ensures.pause (fun _ => does.others _ rfl rfl)
        (does.others _ rfl rfl)).bind fun full _ => ?_
      split
      · exact ih (checks + 1) seen
      · exact ensures_finish does started _ .cancelled seen

/-- All that a poll does is of the kind, and no error of the gateway fails it. -/
theorem ensures_run : p.run.Ensures P p.Expected fun _ => True := by
  have required : (Client.require "tx_hash" p.hash).Ensures P p.Expected fun _ => True := by
    unfold Client.require
    split
    next empty =>
      exact .fail ⟨fun filled => filled (Text.coe_inj.mp (Text.isEmpty_iff.mp empty)), nofun⟩
    next => exact .pure trivial
  refine required.bind fun _ _ => ?_
  exact (Action.Ensures.clock fun _ => does.others _ rfl rfl).bind fun started _ =>
    ensures_checkOn does started 0 p.policy.retries {}

end Parts

/-- A poll sends no transactions, and no error of the gateway fails it. -/
theorem behaves_run (p : Poll τ) : p.Behaves p.run := by
  refine ensures_run ⟨?_, fun _ _ _ => trivial, fun _ silent _ => .of_silent silent⟩
  have query := p.client.behaves_getTransaction
    { policy := some .single, watching := p.watching } p.hash p.withResults
    (fun filled : p.hash ≠ "" => Text.filled_coe filled)
    fun _ => Text.isSome_toString?_coe p.hash
  exact query.keeps

end Poll
end GatewayClient
