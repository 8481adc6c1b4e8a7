import GatewayClient.Proofs.Client.RetryLaw
import GatewayClient.Proofs.Program.Pacing

/-!
# The pace of a call

A call sleeps between two requests, for as long as it chose to after the first of them
(`Call.Rounds.paced`): its policy chose a delay by the number of requests, by the time since the
call started and by the number that was drawn, and a server that asked for a longer wait was
honoured.
-/

set_option autoImplicit false

namespace GatewayClient

variable {τ : Type} [TimeScale τ]

namespace Call

variable {c : Call τ} {started : τ}

/-- What a call that started at a time chooses to wait, by what came before and by the reading of
the clock. -/
def Chose (c : Call τ) (started : τ) (before : Log τ) (now wait : τ) : Prop :=
  ∃ (outcome : Outcome) (e : ApiError τ) (chance delay : τ),
    before.answer? = some outcome ∧ c.Retries outcome e ∧
    (c.policy.isJittered = true → before.drawn.getLast? = some chance) ∧
    c.policy.nextDelay (before.sent.length - 1) (now - started) (e.kind == .rateLimited) chance =
      .ok (some delay) ∧
    wait = c.waitFor delay (now - started) e

/-- Only a call that may be repeated chooses a wait. -/
theorem Chose.idempotent {before : Log τ} {now wait : τ} (h : c.Chose started before now wait) :
    c.idempotent = true := by
  obtain ⟨_, _, _, _, -, retries, -⟩ := h
  exact retries.idempotent

/-- The number that a policy with jitter draws is the last one in the log. -/
theorem drawn_waitLog {made : Nat} {e : ApiError τ} {chance wait : τ}
    (jittered : c.policy.isJittered = true) :
    (c.waitLog made e chance wait).drawn = [chance] := by
  rw [waitLog, RetryPolicy.drawLog, if_pos jittered]
  rfl

/-- To choose a wait makes no request. -/
theorem sent_waitLog {made : Nat} {e : ApiError τ} {chance wait : τ} :
    (c.waitLog made e chance wait).sent = [] := by
  rw [← Log.sent_acts, acts_waitLog, Log.sent_nil]

/-- After an answer that may be followed by another request, what is waited was chosen. Looks at the
cancel event have no say in it. -/
theorem chose_of_next {before looks : Log τ} {outcome : Outcome} {e : ApiError τ}
    {now chance delay : τ} (retries : c.Retries outcome e)
    (next : c.policy.nextDelay before.sent.length (now - started) (e.kind == .rateLimited) chance =
      .ok (some delay))
    (unsent : looks.sent = []) (undrawn : looks.drawn = []) :
    c.Chose started (before ++ (c.asked outcome ++ .clock now ::
        (c.waitLog (before.sent.length + 1) e chance (c.waitFor delay (now - started) e) ++ looks)))
      now (c.waitFor delay (now - started) e) := by
  generalize waits : c.waitFor delay (now - started) e = wait
  have sent : Log.sent (before ++ (c.asked outcome ++ .clock now ::
      (c.waitLog (before.sent.length + 1) e chance wait ++ looks))) =
      before.sent ++ [(c.request, some outcome)] := by
    simp [sent_waitLog, unsent]
  refine ⟨outcome, e, chance, delay, ?_, retries, fun jittered => ?_, ?_, waits.symm⟩
  · simp [Log.answer?, sent]
  · rw [Log.drawn_append, Log.drawn_append, ← List.singleton_append, Log.drawn_append,
      Log.drawn_append, drawn_waitLog jittered, undrawn]
    simp
  · rw [sent, List.length_append, List.length_singleton, Nat.add_sub_cancel]
    exact next

/-- The rounds of a call are a log in rounds, whose sleeps were chosen. -/
theorem Rounds.paced {made : Nat} {log : Log τ} {r : Except (Failure τ) Json.Fields}
    (h : c.Rounds started made log r) (before : Log τ) (counted : before.sent.length = made) :
    Log.Paced (c.Chose started) before log := by
  induction h generalizing before with
  | stopped _ => exact .ends (.inl rfl)
  | abandoned _ => exact .ends (.inr ⟨_, _, rfl⟩)
  | answered _ | refused _ _ => exact .ends (.inr ⟨_, _, acts_asked _⟩)
  | gaveUp _ _ | overflowed _ _ _ => exact .asked (acts_asked _) rfl
  | interrupted retries next paused =>
    subst counted
    have round := Log.Paced.paused (acts_asked _) (acts_waitLog _ _ _ _)
      (readings_waitLog _ _ _ _) paused (fun _ => (rfl : Log.acts [] = []))
      (fun _ _ unsent undrawn => chose_of_next retries next unsent undrawn) nofun
    rwa [List.append_nil] at round
  | again retries next paused _ ih =>
    subst counted
    refine .paused (acts_asked _) (acts_waitLog _ _ _ _) (readings_waitLog _ _ _ _) paused nofun
      (fun _ _ unsent undrawn => chose_of_next retries next unsent undrawn) fun _ => ih _ ?_
    simp [sent_waitLog, paused.sent_eq]

end Call

/-- A call by name does nothing if there is no such request, or goes in rounds. -/
theorem Client.rounds_of_callNamed {σ : Type} (w : World σ τ) (s : σ) (c : Client τ)
    (name : String) (values : PathValues) (query : Query) (body : Option Bytes)
    (idempotent : Bool) (o : CallOptions τ) :
    let r := (c.callNamed name values query body idempotent o).runIn w s
    r.events = [] ∨ ∃ op route started log, r.events = .clock started :: log ∧
      (c.callFor op route body idempotent o).Rounds started 0 log r.result := by
  cases resolves : c.config.catalog.resolve name values query with
  | ok route =>
    obtain ⟨op, -, same⟩ := callNamed_eq_run resolves body idempotent o
    have traces := Action.traces_runIn (c.callFor op route body idempotent o).run w s
    obtain ⟨started, log, logged, rounds⟩ := Call.rounds_of_traces_run traces
    rw [same]
    exact .inr ⟨op, route, started, log, logged, rounds⟩
  | error fault =>
    left
    unfold Catalog.resolve at resolves
    unfold callNamed
    cases found : Operation.ofName? name with
    | none => rfl
    | some op =>
      rw [found] at resolves
      dsimp only at resolves ⊢
      rw [call, resolves]
      rfl

end GatewayClient
