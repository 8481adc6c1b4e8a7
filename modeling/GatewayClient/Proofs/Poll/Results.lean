import GatewayClient.Proofs.Client.Results
import GatewayClient.Proofs.Poll.Rounds

/-!
# What a poll remembers

A poll hands over the last transaction that it saw. It is one that a payload of the poll is read as,
whatever became of the checks after it (`Poll.gives_run`). What it remembers passes through its
checks as an invariant: one check keeps it (`Poll.recalls_check`), and so do all of them
(`Poll.recalls_checkOn`).
-/

set_option autoImplicit false

namespace GatewayClient

variable {τ α : Type} [TimeScale τ]

/-- An error has no result that payloads could speak for. -/
theorem Action.Gives.attempt {x : Action τ α} {R : List Json.Fields → α → Prop} (h : x.Gives R) :
    x.attempt.Gives fun payloads answer => ∀ a, answer = .ok a → R payloads a := by
  rintro log _ traces a rfl
  obtain ⟨outcome, within, eq⟩ := Action.traces_attempt traces
  cases outcome with
  | ok b =>
    cases eq
    exact h within
  | error failure => cases failure <;> cases eq

namespace Poll

/-- A remembered transaction, if there is one, is what one of the payloads is read as. -/
def Shown (p : Poll τ) (payloads : List Json.Fields) (remembered : Option TransactionOnNetwork) :
    Prop :=
  ∀ tx, remembered = some tx → ∃ data ∈ payloads, Schema.transaction.Takes data ∧
    TransactionOnNetwork.ofPayload? data p.hash p.client.statusTable = some tx

variable {p : Poll τ} {payloads : List Json.Fields} {remembered : Option TransactionOnNetwork}

/-- Further payloads take nothing away. -/
theorem Shown.append (h : p.Shown payloads remembered) (more : List Json.Fields) :
    p.Shown (payloads ++ more) remembered := by
  intro tx eq
  obtain ⟨data, mem, read⟩ := h tx eq
  exact ⟨data, List.mem_append_left more mem, read⟩

/-- Part of a poll that remembers a sighting: if payloads from before it speak for what it
remembers, then they and its own speak for what the poll hands over. -/
def Recalls (p : Poll τ) (seen : Sighting τ) (x : Action τ (PollResult τ)) : Prop :=
  ∀ before, p.Shown before seen.transaction →
    x.Gives fun payloads result => p.Shown (before ++ payloads) result.transaction

variable {seen : Sighting τ}

/-- What happens without a request leaves the memory as it is. -/
theorem Recalls.after_silent {x : Action τ α} {f : α → Action τ (PollResult τ)} {R : α → Prop}
    {F : Failure τ → Prop} (quiet : x.Ensures (fun e => e.sent? = none) F R)
    (hf : ∀ a, p.Recalls seen (f a)) : p.Recalls seen (x >>= f) :=
  fun before shown => .after_silent (.silent quiet) fun a _ => hf a before shown

variable (started : τ) (checks : Nat)

/-- A poll finishes with what it remembers. -/
theorem recalls_finish (outcome : PollOutcome) (seen : Sighting τ) :
    p.Recalls seen (finish outcome started checks seen) := by
  refine .after_silent (F := fun _ => True) (.clock fun _ => rfl) fun now before shown => ?_
  refine .pure ?_
  rw [List.append_nil]
  exact shown

/-- A poll gives up with what it remembers. -/
theorem recalls_giveUp (seen : Sighting τ) (elapsed : τ) :
    p.Recalls seen (p.giveUp started checks seen elapsed) :=
  .after_silent (F := fun _ => True) (.warn rfl) fun _ =>
    recalls_finish started checks .timedOut seen

/-- One check keeps what the poll remembers, or replaces it by the transaction of its payload. -/
theorem recalls_check (seen : Sighting τ) {wait : Sighting τ → Bool → Action τ (PollResult τ)}
    (waits : ∀ seen rateLimited, p.Recalls seen (wait seen rateLimited)) :
    p.Recalls seen (p.check started checks seen wait) := by
  have query := (p.client.gives_getTransaction
    { policy := some .single, watching := p.watching } p.hash p.withResults).attempt
  rw [check_eq]
  refine .after_silent (F := fun _ => True) (.isCancelled fun _ => rfl) fun isSet before shown => ?_
  split
  · exact recalls_finish started checks .cancelled seen before shown
  · refine query.bind fun first answer asked => ?_
    simp only [← List.append_assoc]
    -- What the poll remembers after the query comes from an earlier payload, or is this one.
    have known : p.Shown (before ++ first) (seen.after answer).transaction := by
      cases answer with
      | error e => exact shown.append first
      | ok tx =>
        obtain ⟨data, rfl, fits, read⟩ := asked tx rfl
        rintro _ ⟨⟩
        exact ⟨data, List.mem_append_right before (List.mem_singleton_self data), fits, read⟩
    have judged : p.Recalls (seen.after answer) (p.judge started checks seen wait answer) := by
      have reports : (p.report answer).Ensures (fun e => e.sent? = none) (fun _ => True)
          fun _ => True := by
        unfold report
        split
        · exact .pure trivial
        · split
          · exact .pure trivial
          · exact .warn rfl
      refine .after_silent reports fun _ => ?_
      split
      · exact recalls_finish started _ _ _
      · exact waits _ _
    split
    next e =>
      split
      · exact recalls_finish started _ .cancelled seen _ (shown.append first)
      · exact judged _ known
    next => exact judged _ known

/-- So do all checks. The induction is on the checks that are left. -/
theorem recalls_checkOn (left : Nat) (seen : Sighting τ) :
    p.Recalls seen (p.checkOn started left checks seen) := by
  induction left generalizing checks seen with
  | zero =>
    refine recalls_check started checks seen fun seen _ => ?_
    exact .after_silent (F := fun _ => True) (.clock fun _ => rfl) fun now =>
      recalls_giveUp started _ seen (now - started)
  | succ left ih =>
    refine recalls_check started checks seen fun seen rateLimited => ?_
    refine .after_silent (F := fun _ => True) (.clock fun _ => rfl) fun now => ?_
    refine .after_silent (F := fun _ => True)
      (RetryPolicy.ensures_schedule (fun _ _ _ => rfl) fun _ _ => trivial) fun delay? => ?_
    split
    · exact recalls_giveUp started _ seen (now - started)
    · refine .after_silent (F := fun _ => True) (.pause (fun _ => rfl) rfl) fun full => ?_
      split
      · exact ih (checks + 1) seen
      · exact recalls_finish started _ .cancelled seen

/-- The transaction of a poll's result is what one of its payloads is read as. -/
theorem gives_run (p : Poll τ) :
    p.run.Gives fun payloads result => p.Shown payloads result.transaction := by
  have none : p.Shown [] ({} : Sighting τ).transaction := fun _ eq => nomatch eq
  refine .after (Client.aside_require _ _) fun _ _ => ?_
  refine .after_silent (.silent (F := fun _ => True) (.clock fun _ => rfl)) fun started _ => ?_
  exact recalls_checkOn started 0 p.policy.retries {} [] none

end Poll
end GatewayClient
