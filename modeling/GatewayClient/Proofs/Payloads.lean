import GatewayClient.Proofs.Cancellation
import GatewayClient.Proofs.Program.Mirrors

/-!
# Only the payload counts

A call looks at an answer for its payload alone, or for the error that stands in its place
(`Call.respects_run`). So do all commands (`Command.respects`): none of them tells two answers apart
that say the same.
-/

set_option autoImplicit false

namespace GatewayClient

variable {τ α : Type} [TimeScale τ] {Alike : Outcome → Outcome → Prop}

/-- Answers that are alike give the same payload, or mean the same error. -/
def Outcome.SaysSame (τ : Type) [TimeScale τ] (Alike : Outcome → Outcome → Prop) : Prop :=
  ∀ a b, Alike a b → (a.payload : Except (ApiError τ) Json.Fields) = b.payload

/-! ## Calls -/

section Calls

section Following

variable {next : Json.Fields → Action τ α}
  (sound : ∀ a b, Alike a b →
    (a.payload : Except (ApiError τ) Json.Fields).map next = b.payload.map next)
  (rest : ∀ data, (next data).Respects Alike)
include sound rest

/-- One attempt tells no more answers apart than what follows it does by their payloads. -/
theorem Call.respects_attempt (c : Call τ) (started : τ) (made : Nat)
    {retry : ApiError τ → τ → Action τ Json.Fields}
    (retries : ∀ e elapsed, Action.Respects Alike (retry e elapsed >>= next)) :
    Action.Respects Alike (c.attempt started made retry >>= next) := by
  rw [attempt, Action.bind_assoc]
  refine (Action.Respects.isCancelled c.watching).bind fun isSet => ?_
  cases isSet with
  | true => exact .raise _
  | false =>
    simp only [Bool.false_eq_true, if_false]
    rw [Action.bind_assoc]
    refine .send (fun a b alike => ?_) fun answer => ?_
    · have same := sound a b alike
      dsimp only
      cases left : (a.payload : Except (ApiError τ) Json.Fields) <;>
        cases right : (b.payload : Except (ApiError τ) Json.Fields) <;> rw [left, right] at same
      case ok.ok data other => exact Except.ok.inj same
      case error.error e other =>
        cases same
        rfl
      all_goals cases same
    · split
      next => exact .raise _
      next outcome =>
        split
        next data _ => exact rest data
        next e _ =>
          split
          · rw [Action.bind_assoc]
            exact Action.Respects.clock.bind fun now => retries _ _
          · exact .raise _

/-- So do all attempts. The induction is on those that are left. -/
theorem Call.respects_attempts (c : Call τ) (started : τ) (left made : Nat) :
    Action.Respects Alike (c.attempts started left made >>= next) := by
  induction left generalizing made with
  | zero => exact c.respects_attempt sound rest started made fun e _ => .raise _
  | succ left ih =>
    refine c.respects_attempt sound rest started made fun e elapsed => ?_
    rw [Action.bind_assoc]
    refine (c.policy.respects_schedule made elapsed _).bind fun delay? => ?_
    cases delay? with
    | none => exact .raise _
    | some delay =>
      dsimp only
      rw [Action.bind_assoc]
      refine (Action.Respects.warn _).bind fun _ => ?_
      rw [Action.bind_assoc]
      refine (Action.Respects.pause _ c.watching).bind fun full => ?_
      cases full with
      | true => exact ih (made + 1)
      | false => exact .raise _

/-- What follows a call tells no more answers apart than it does by their payloads. -/
theorem Call.respects_run_bind (c : Call τ) : Action.Respects Alike (c.run >>= next) := by
  rw [run, Action.bind_assoc]
  exact Action.Respects.clock.bind fun started => c.respects_attempts sound rest started _ 0

/-- What follows the calls of a client tells no more answers apart than it does by their payloads.
-/
theorem Client.respects_call_bind (c : Client τ) (op : Operation) (values : PathValues)
    (query : Query) (body : Option Bytes) (idempotent : Bool) (o : CallOptions τ) :
    Action.Respects Alike (c.call op values query body idempotent o >>= next) := by
  rw [call, Action.bind_assoc]
  exact (Action.Respects.lift _ _).bind fun route => Call.respects_run_bind sound rest _

end Following

/-- What is on the side sees no answers. -/
theorem Action.Aside.respects {x : Action τ α} (quiet : x.Aside) : x.Respects Alike := by
  have : Nonempty τ := ⟨0.0⟩
  refine .of_silent fun log r traces => ?_
  refine List.filterMap_eq_nil_iff.mpr fun e mem => ?_
  obtain ⟨warning, rfl⟩ := quiet.quiet traces e mem
  rfl

variable (sound : Outcome.SaysSame τ Alike)
include sound

/-- A call tells no answers apart that say the same. -/
theorem Call.respects_run (c : Call τ) : c.run.Respects Alike := by
  rw [← Action.bind_pure c.run]
  exact c.respects_run_bind (fun a b alike => by rw [sound a b alike]) fun data => .pure data

/-- What is made of calls looks at answers as they do. -/
theorem Action.MadeOf.respects {p : RetryPolicy τ} {watching : Bool} {n : Nat} {x : Action τ α}
    (h : Action.MadeOf p watching n x) : x.Respects Alike := by
  induction h with
  | aside quiet => exact quiet.respects
  | call _ => exact Call.respects_run sound _
  | bind _ _ first next => exact first.bind next

end Calls

/-! ## Polls -/

namespace Poll

theorem respects_finish (outcome : PollOutcome) (started : τ) (checks : Nat) (seen : Sighting τ) :
    (finish outcome started checks seen).Respects Alike :=
  Action.Respects.clock.bind fun _ => .pure _

variable (p : Poll τ)

theorem respects_giveUp (started : τ) (checks : Nat) (seen : Sighting τ) (elapsed : τ) :
    (p.giveUp started checks seen elapsed).Respects Alike :=
  (Action.Respects.warn _).bind fun _ => respects_finish .timedOut started checks seen

variable (sound : Outcome.SaysSame τ Alike)
include sound

/-- A check tells no answers apart that say the same, if what follows it does not. -/
theorem respects_check (started : τ) (checks : Nat) (seen : Sighting τ)
    {wait : Sighting τ → Bool → Action τ (PollResult τ)}
    (waits : ∀ seen rateLimited, (wait seen rateLimited).Respects Alike) :
    (p.check started checks seen wait).Respects Alike := by
  have query := (p.client.madeOf_getTransaction
    { policy := some .single, watching := p.watching } p.hash p.withResults).respects sound
  have asked : (p.client.getTransaction p.hash p.withResults
      { policy := some .single, watching := p.watching }).attempt.Respects Alike :=
    Program.Respects.andThen query fun r => by
      cases r with
      | ok a => exact .done _
      | error failure => cases failure <;> exact .done _
  refine (Action.Respects.isCancelled p.watching).bind fun isSet => ?_
  split
  · exact respects_finish .cancelled started checks seen
  · refine asked.bind fun answer => ?_
    split
    next e =>
      split
      next => exact respects_finish .cancelled started _ seen
      next =>
        split
        next => exact waits _ _
        next =>
          split
          next => exact (Action.Respects.warn _).bind fun _ => waits _ _
          next =>
            exact (Action.Respects.warn _).bind fun _ => respects_finish .errored started _ _
    next tx =>
      dsimp only
      split
      next => exact respects_finish .succeeded started _ _
      next =>
        split
        next => exact respects_finish .failed started _ _
        next => exact waits _ _

/-- So do all checks. The induction is on those that are left. -/
theorem respects_checkOn (started : τ) (left checks : Nat) (seen : Sighting τ) :
    (p.checkOn started left checks seen).Respects Alike := by
  induction left generalizing checks seen with
  | zero =>
    refine p.respects_check sound started checks seen fun seen _ => ?_
    exact Action.Respects.clock.bind fun now => p.respects_giveUp started _ seen _
  | succ left ih =>
    refine p.respects_check sound started checks seen fun seen rateLimited => ?_
    refine Action.Respects.clock.bind fun now => ?_
    refine (p.policy.respects_schedule checks _ rateLimited).bind fun delay? => ?_
    split
    · exact p.respects_giveUp started _ seen _
    · refine (Action.Respects.pause _ p.watching).bind fun full => ?_
      split
      · exact ih (checks + 1) seen
      · exact respects_finish .cancelled started _ seen

/-- A poll tells no answers apart that say the same. -/
theorem respects_run : p.run.Respects Alike := by
  have required : (Client.require "tx_hash" p.hash : Action τ Unit).Respects Alike := by
    unfold Client.require
    split
    · exact .fail _
    · exact .pure ()
  exact required.bind fun _ =>
    Action.Respects.clock.bind fun started => p.respects_checkOn sound started _ 0 {}

end Poll

/-- No command tells answers apart that say the same. -/
theorem Command.respects (sound : Outcome.SaysSame τ Alike) (c : Client τ) (o : CallOptions τ)
    (command : Command τ α) : (command.run c o).Respects Alike := by
  cases chain : command.calls with
  | some n => exact (command.madeOf c o chain).1.respects sound
  | none =>
    cases command with
    | read | write | call | sendAndConfirm => cases chain
    | poll hash withResults => exact Poll.respects_run _ sound
    | pause delay => exact Action.Respects.pause delay o.watching

end GatewayClient
