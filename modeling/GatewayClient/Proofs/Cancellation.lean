import GatewayClient.Proofs.Poll.Cancelling

/-!
# Cancellation stops all activity

A command that watches the cancel event does nothing more once the event is set: neither a request
nor a sleep begins after that, wherever in the command it happens (`CancelEvent.unset_of_heeds`). It
reports that it was cancelled only for a signal of the event, and a command that does not watch the
event never does.

**What came in time counts** (`Program.run_deaf`): a command that does not end as cancelled ends as
it would have ended without the event. So does a command of a single call whose last answer leaves
nothing to ask, even if the event was set while that answer was on its way.
-/

set_option autoImplicit false

namespace GatewayClient

variable {σ τ α : Type}

/-- The answer to the last request leaves nothing to ask under a policy. The time that counts is the
one between the first and the last reading of the clock. -/
def Log.Decides [TimeScale τ] (p : RetryPolicy τ) (log : Log τ) : Prop :=
  ∃ outcome first last, log.answer? = some outcome ∧ log.readings.head? = some first ∧
    log.readings.getLast? = some last ∧ outcome.Decisive p log.sent.length (last - first)

variable [TimeScale τ]

namespace Command

/-- The result says that the command was cancelled. -/
def stopped : Command τ α → α → Bool
  | poll .., r => r.isCancelled
  | pause _, full => !full
  | read _, _ | write _, _ | call .., _ | sendAndConfirm .., _ => false

/-- The command ended as cancelled. -/
def isCancelled (command : Command τ α) (r : Except (Failure τ) α) : Bool :=
  Action.cancels command.stopped r

/-- The chain of calls that a command is, unless it polls or rests. -/
theorem madeOf (c : Client τ) (o : CallOptions τ) (command : Command τ α) {n : Nat}
    (chain : command.calls = some n) :
    Action.MadeOf (command.policyInForce c o) o.watching n (command.run c o) ∧
      command.stopped = fun _ => false := by
  cases command with
  | read r =>
    cases chain
    exact ⟨r.madeOf c o, rfl⟩
  | write w =>
    cases chain
    exact ⟨w.madeOf c o.watching, rfl⟩
  | call name values query body idempotent =>
    cases chain
    refine ⟨?_, rfl⟩
    show Action.MadeOf _ _ 1 (c.callNamed name values query body idempotent o)
    unfold Client.callNamed
    split
    · exact c.madeOf_call o _ values query body idempotent
    · exact .aside (.fail ⟨rfl, .inl rfl⟩)
  | sendAndConfirm request blocks withResults =>
    cases chain
    refine ⟨c.madeOf_onSimulator fun s _ => ?_, rfl⟩
    exact s.madeOf_sendAndConfirm request blocks withResults o.watching
  | poll | pause => cases chain

/-- Every command that watches the event heeds it. -/
theorem heeds (c : Client τ) (o : CallOptions τ) (command : Command τ α)
    (watching : o.watching = true) : (command.run c o).Heeds := by
  cases chain : command.calls with
  | some n =>
    have made := (command.madeOf c o chain).1
    rw [watching] at made
    exact made.heeds
  | none =>
    cases command with
    | read | write | call | sendAndConfirm => cases chain
    | poll hash withResults => exact Poll.heeds_run watching
    | pause delay =>
      show (Action.pause delay o.watching).Heeds
      rw [watching]
      exact .pause

/-- Every command attends to the event. -/
theorem attends (c : Client τ) (o : CallOptions τ) (command : Command τ α) :
    Action.Attends o.watching (command.run c o) command.stopped := by
  cases chain : command.calls with
  | some n =>
    obtain ⟨made, never⟩ := command.madeOf c o chain
    rw [never]
    exact made.attends
  | none =>
    cases command with
    | read | write | call | sendAndConfirm => cases chain
    | poll hash withResults =>
      exact Poll.attends_run
        { client := c, policy := o.policy.getD defaultPollPolicy, hash, withResults
          watching := o.watching }
    | pause delay => exact .pause

/-- Cancellation stops all activity of a command that watches the event: no request and no sleep
begins once the event is set. A command ends as cancelled only if it watches the event and the event
is set. Otherwise it goes as it would have gone without the event, and a command of a single call
does so where the last answer leaves nothing to ask. -/
theorem quiet_once_set {w : World σ τ} (event : CancelEvent w) (c : Client τ) (o : CallOptions τ)
    (command : Command τ α) (s : σ) :
    let r := (command.run c o).runIn w s
    (o.watching = true → ∀ step ∈ (command.run c o).run.steps w s, Log.isAct step.2 = true →
      event.isSet step.1 = false) ∧
    (command.isCancelled r.result = true → o.watching = true ∧ event.isSet r.state = true) ∧
    (command.isCancelled r.result = false → (command.run c o).runIn w.deaf s = r) ∧
    (command.calls = some 1 → r.events.Decides (command.policyInForce c o) →
      command.isCancelled r.result = false ∧ (command.run c o).runIn w.deaf s = r) := by
  have traces := Action.traces_runIn (command.run c o) w s
  have attends := command.attends c o
  have signals := attends.signals_eq traces
  refine ⟨fun watching => ?_, fun cancelled => ?_, fun alive => ?_, fun single decides => ?_⟩
  · exact event.unset_of_heeds (command.heeds c o watching traces) nofun
  · have signalled := signals.trans cancelled
    have signal := event.signal_runIn (command.run c o) s
    exact ⟨attends.watched traces signalled, signal.set_of_signals signalled⟩
  · exact Program.run_deaf (signals.trans alive)
  · obtain ⟨outcome, first, last, answered, head, final, decisive⟩ := decides
    have made := (command.madeOf c o single).1
    have silent := made.unsignalled (Nat.le_refl 1) traces answered head final decisive
    exact ⟨signals.symm.trans silent, Program.run_deaf silent⟩

end Command

/-- The economics of the network, asked for by a client that watches the event. The event is set
while the answer is on its way, and the answer is a rejection. -/
def lateRead : Run (Script Float) Float (Except (Failure Float) NetworkEconomics) :=
  ((Command.read .networkEconomics).run .onThisMachine { watching := true }).runIn Script.world
    { now := 0.0, replies := [⟨some (.response { status := 404 }), 0.25, true⟩] }

/-- The rejection is reported as it is, although the event is set by then. -/
theorem Command.quiet_once_set_late :
    let read : Command Float NetworkEconomics := .read .networkEconomics
    let asks := read.run .onThisMachine { watching := true }
    let s : Script Float :=
      { now := 0.0, replies := [⟨some (.response { status := 404 }), 0.25, true⟩] }
    (∀ step ∈ asks.run.steps Script.world s, Log.isAct step.2 = true →
      step.1.isCancelled = false) ∧
    lateRead.state.isCancelled = true ∧ read.calls = some 1 ∧
    lateRead.events.Decides (read.policyInForce .onThisMachine { watching := true }) ∧
    read.isCancelled lateRead.result = false ∧ asks.runIn Script.world.deaf s = lateRead := by
  intro read asks s
  have law := Command.quiet_once_set Script.cancelEvent .onThisMachine { watching := true } read s
  have decides : lateRead.events.Decides
      (read.policyInForce .onThisMachine { watching := true }) := by
    refine ⟨.response { status := 404 }, _, _, by decide +kernel, rfl, rfl, ?_⟩
    intro e failed retryable
    cases failed
    cases retryable
  obtain ⟨alive, same⟩ := law.2.2.2 rfl decides
  exact ⟨law.1 rfl, by decide +kernel, rfl, decides, alive, same⟩

end GatewayClient
