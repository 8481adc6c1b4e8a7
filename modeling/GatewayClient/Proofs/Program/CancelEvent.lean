import GatewayClient.Proofs.Program.Traces
import GatewayClient.Program.Script

/-!
# The cancel event

An event that is set once and stays set. It becomes set before an operation starts, or while a
request or a sleep is under way: between those the operation has the floor, and nothing else runs.
A watched request is abandoned only for the event.

**What this says of a log** (`CancelEvent.signal_runIn`): the looks at the event agree with one
another between two requests or sleeps, none of them takes back an earlier one, and an abandoned
request leaves the event set.
-/

set_option autoImplicit false

namespace GatewayClient

/-- A cancel event of a world: whether it is set in a state. It is set by requests and sleeps
alone, and never taken back. -/
structure CancelEvent {σ τ : Type} (w : World σ τ) where
  isSet : σ → Bool
  cancelled_fst : ∀ s, (w.cancelled s).1 = isSet s
  cancelled_snd : ∀ s, isSet (w.cancelled s).2 = isSet s
  clock_snd : ∀ s, isSet (w.clock s).2 = isSet s
  draw_snd : ∀ source s, isSet (w.draw source s).2 = isSet s
  send_snd : ∀ request s, isSet s = true → isSet (w.send request s).2 = true
  sendWatched_snd : ∀ request s, isSet s = true → isSet (w.sendWatched request s).2 = true
  abandoned : ∀ request s, (w.sendWatched request s).1 = none →
    isSet (w.sendWatched request s).2 = true
  sleep : ∀ delay s, isSet s = true → isSet (w.sleep delay s) = true

namespace Log

variable {τ : Type}

/-- A log keeps to a cancel event that is set as the first argument says when it begins, and as the
last one says when it ends. -/
inductive Signal : Bool → Log τ → Bool → Prop
  | nil (isSet : Bool) : Signal isSet [] isSet
  | sent {before meanwhile after : Bool} {request : Request τ} {answer : Option Outcome}
      {log : Log τ} (stays : before = true → meanwhile = true)
      (abandoned : answer = none → meanwhile = true) (rest : Signal meanwhile log after) :
      Signal before (.sent request answer :: log) after
  | slept {before meanwhile after : Bool} {delay : τ} {log : Log τ}
      (stays : before = true → meanwhile = true) (rest : Signal meanwhile log after) :
      Signal before (.slept delay :: log) after
  | clock {before after : Bool} {now : τ} {log : Log τ} (rest : Signal before log after) :
      Signal before (.clock now :: log) after
  | cancelled {before after : Bool} {log : Log τ} (rest : Signal before log after) :
      Signal before (.cancelled before :: log) after
  | drew {before after : Bool} {source : Nat} {chance : τ} {log : Log τ}
      (rest : Signal before log after) : Signal before (.drew source chance :: log) after
  | warned {before after : Bool} {warning : Warning τ} {log : Log τ}
      (rest : Signal before log after) : Signal before (.warned warning :: log) after

namespace Signal

variable {before after : Bool} {log more : Log τ}

/-- An event that is set stays set. -/
theorem stays_set (h : Signal before log after) (set : before = true) : after = true := by
  induction h with
  | nil _ => exact set
  | sent stays _ _ ih => exact ih (stays set)
  | slept stays _ ih => exact ih (stays set)
  | clock _ ih | cancelled _ ih | drew _ ih | warned _ ih => exact ih set

/-- What follows a part of a log begins as that part ends. -/
theorem split (h : Signal before (log ++ more) after) :
    ∃ middle, Signal before log middle ∧ Signal middle more after := by
  induction log generalizing before with
  | nil => exact ⟨before, .nil before, h⟩
  | cons e log ih =>
    cases h with
    | sent stays abandoned rest =>
      obtain ⟨middle, first, last⟩ := ih rest
      exact ⟨middle, .sent stays abandoned first, last⟩
    | slept stays rest =>
      obtain ⟨middle, first, last⟩ := ih rest
      exact ⟨middle, .slept stays first, last⟩
    | clock rest =>
      obtain ⟨middle, first, last⟩ := ih rest
      exact ⟨middle, .clock first, last⟩
    | cancelled rest =>
      obtain ⟨middle, first, last⟩ := ih rest
      exact ⟨middle, .cancelled first, last⟩
    | drew rest =>
      obtain ⟨middle, first, last⟩ := ih rest
      exact ⟨middle, .drew first, last⟩
    | warned rest =>
      obtain ⟨middle, first, last⟩ := ih rest
      exact ⟨middle, .warned first, last⟩

/-- An event that was seen set is set in the end. -/
theorem set_of_cancelled (h : Signal before log after) (seen : .cancelled true ∈ log) :
    after = true := by
  obtain ⟨first, last, rfl⟩ := List.append_of_mem seen
  obtain ⟨middle, -, rest⟩ := h.split
  cases rest with
  | cancelled rest => exact rest.stays_set rfl

/-- An event for which a request was abandoned is set in the end. -/
theorem set_of_abandoned {request : Request τ} (h : Signal before log after)
    (abandoned : .sent request none ∈ log) : after = true := by
  obtain ⟨first, last, rfl⟩ := List.append_of_mem abandoned
  obtain ⟨middle, -, rest⟩ := h.split
  cases rest with
  | sent _ abandoned rest => exact rest.stays_set (abandoned rfl)

end Signal
end Log

namespace CancelEvent

variable {σ τ α : Type} {w : World σ τ}

theorem signal_run (event : CancelEvent w) (p : Program τ α) (s : σ) :
    Log.Signal (event.isSet s) (p.run w s).events (event.isSet (p.run w s).state) := by
  induction p generalizing s with
  | done a => exact .nil _
  | send request _ ih => exact .sent (event.send_snd request s) nofun (ih _ _)
  | sendWatched request _ ih =>
    exact .sent (event.sendWatched_snd request s) (event.abandoned request s) (ih _ _)
  | sleep delay _ ih => exact .slept (event.sleep delay s) (ih _)
  | clock _ ih => exact .clock (event.clock_snd s ▸ ih _ _)
  | cancelled next ih =>
    have rest := ih (w.cancelled s).1 (w.cancelled s).2
    rw [event.cancelled_snd, ← event.cancelled_fst s] at rest
    rw [← event.cancelled_fst s]
    exact .cancelled rest
  | draw source _ ih => exact .drew (event.draw_snd source s ▸ ih _ _)
  | warn _ _ ih => exact .warned (ih _)

theorem signal_runIn (event : CancelEvent w) (x : Action τ α) (s : σ) :
    Log.Signal (event.isSet s) (x.runIn w s).events (event.isSet (x.runIn w s).state) :=
  event.signal_run x.run s

end CancelEvent

/-- A scripted request leaves the event set if it was set before, if the reply says so, or if the
request is never answered. -/
theorem Script.isCancelled_reply {τ : Type} [TimeScale τ] (request : Request τ) (s : Script τ) :
    (s.reply request).2.isCancelled =
      (s.isCancelled || (s.reply request).1.cancels || (s.reply request).1.answer.isNone) := by
  unfold Script.reply
  cases nextByHash request.url s.byHash <;> rfl

/-- The cancel event of a scripted world. -/
def Script.cancelEvent {τ : Type} [TimeScale τ] : CancelEvent (Script.world (τ := τ)) where
  isSet s := s.isCancelled
  cancelled_fst _ := rfl
  cancelled_snd _ := rfl
  clock_snd _ := rfl
  draw_snd _ _ := rfl
  send_snd request s set := by
    change (s.reply request).2.isCancelled = true
    rw [isCancelled_reply, set, Bool.true_or, Bool.true_or]
  sendWatched_snd request s set := by
    change (s.reply request).2.isCancelled = true
    rw [isCancelled_reply, set, Bool.true_or, Bool.true_or]
  abandoned request s unanswered := by
    change (s.reply request).1.answer = none at unanswered
    change (s.reply request).2.isCancelled = true
    rw [isCancelled_reply, unanswered, Option.isNone_none, Bool.or_true]
  sleep delay s set := by
    change (s.isCancelled || _) = true
    rw [set, Bool.true_or]

end GatewayClient
