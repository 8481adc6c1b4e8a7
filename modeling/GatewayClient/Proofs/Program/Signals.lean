import GatewayClient.Proofs.Program.CancelEvent
import GatewayClient.Proofs.Program.Ensures

/-!
# Signals

An action learns of the cancel event in two ways: a look finds it set, or a request is abandoned for
it. An action attends to the event if it ends as cancelled after such a signal, and never without
one.

**Without a signal nothing was different** (`Program.run_deaf`): a run that got none goes as it
would have gone in the same world with an event that is never set.
-/

set_option autoImplicit false

namespace GatewayClient

variable {σ τ α β : Type}

/-- The step tells that the event is set. -/
@[simp] def Event.signals : Event τ → Bool
  | .cancelled isSet => isSet
  | .sent _ answer => answer.isNone
  | _ => false

/-! ## Signals -/

namespace Log

/-- Some step tells that the event is set. -/
def signals (log : Log τ) : Bool := log.any Event.signals

@[simp] theorem signals_nil : signals ([] : Log τ) = false := rfl

@[simp] theorem signals_cons (e : Event τ) (log : Log τ) :
    signals (e :: log) = (e.signals || signals log) := rfl

@[simp] theorem signals_append (log more : Log τ) :
    signals (log ++ more) = (signals log || signals more) :=
  List.any_append

/-- A log whose steps tell nothing of the event has no signal. -/
theorem signals_eq_false {log : Log τ} (silent : ∀ e ∈ log, e.signals = false) :
    signals log = false :=
  List.any_eq_false.mpr fun e mem => Bool.eq_false_iff.mp (silent e mem)

/-- An event that gave a signal is set in the end. -/
theorem Signal.set_of_signals {before after : Bool} {log : Log τ} (h : Signal before log after)
    (signalled : log.signals = true) : after = true := by
  obtain ⟨e, mem, told⟩ := List.any_eq_true.mp signalled
  cases e with
  | sent request answer =>
    cases answer with
    | none => exact h.set_of_abandoned mem
    | some outcome => cases told
  | cancelled isSet =>
    cases isSet with
    | true => exact h.set_of_cancelled mem
    | false => cases told
  | slept _ | clock _ | drew _ _ | warned _ => cases told

end Log

/-- The world in which every look finds the event unset, and that is the same otherwise. -/
def World.deaf (w : World σ τ) : World σ τ :=
  { w with cancelled := fun s => (false, (w.cancelled s).2) }

/-- A run without signals goes as it would have gone without the event. -/
theorem Program.run_deaf {w : World σ τ} {p : Program τ α} {s : σ}
    (unsignalled : (p.run w s).events.signals = false) : p.run w.deaf s = p.run w s := by
  induction p generalizing s with
  | done _ => rfl
  | send _ _ ih => exact congrArg (Run.after _) (ih _ unsignalled)
  | sendWatched request next ih =>
    have apart : ((w.sendWatched request s).1.isNone || _) = false := unsignalled
    exact congrArg (Run.after _) (ih _ (Bool.or_eq_false_iff.mp apart).2)
  | sleep _ _ ih | warn _ _ ih => exact congrArg (Run.after _) (ih unsignalled)
  | clock _ ih | draw _ _ ih => exact congrArg (Run.after _) (ih _ unsignalled)
  | cancelled next ih =>
    obtain ⟨unset, rest⟩ := Bool.or_eq_false_iff.mp unsignalled
    have looked : (w.cancelled s).1 = false := unset
    have same := ih (w.cancelled s).1 rest
    rw [looked] at same
    simp only [run, World.deaf, looked]
    exact congrArg (Run.after _) same

/-- The failure is that the operation was cancelled. -/
def Failure.isCancelled : Failure τ → Bool
  | .api e => e.kind == .cancelled
  | _ => false

/-! ## Actions that attend to the event -/

namespace Action

/-- A pause that went through got no signal, and one that was cut short got one. -/
theorem Paused.signals_eq {delay : τ} {watching full : Bool} {log : Log τ}
    (h : Paused delay watching log full) : log.signals = !full := by
  cases h with
  | unwatched => rfl
  | stopped => rfl
  | watched isSet => cases isSet <;> rfl

/-- A result is one of an action that was cancelled, where `stopped` says which values are. -/
def cancels (stopped : α → Bool) : Except (Failure τ) α → Bool
  | .ok a => stopped a
  | .error failure => failure.isCancelled

/-- The action ends as cancelled if it got a signal, and only then. It gets none if it does not
watch the event. -/
structure Attends (watching : Bool) (x : Action τ α) (stopped : α → Bool) : Prop where
  signals_eq : ∀ ⦃log r⦄, x.Traces log r → log.signals = cancels stopped r
  watched : ∀ ⦃log r⦄, x.Traces log r → log.signals = true → watching = true

namespace Attends

variable {watching : Bool} {stopped : α → Bool} {ends : β → Bool}

/-- An action that gets no signals, and does not end as if it had. -/
theorem of_ensures {x : Action τ α}
    (silent : x.Ensures (fun e => e.signals = false) (fun failure => failure.isCancelled = false)
      fun a => stopped a = false) : Attends watching x stopped where
  signals_eq log r traces := by
    obtain ⟨steps, ended⟩ := silent traces
    rw [Log.signals_eq_false steps]
    cases r with
    | ok a => exact ended.symm
    | error failure => exact ended.symm
  watched log r traces signalled := by
    rw [Log.signals_eq_false (silent traces).1] at signalled
    cases signalled

/-- What follows a signal has to end as cancelled, and what follows none has to attend. -/
theorem bind {x : Action τ α} {f : α → Action τ β} (hx : Attends watching x stopped)
    (goes : ∀ a, stopped a = false → Attends watching (f a) ends)
    (stops : ∀ a, stopped a = true → (f a).Ensures (fun _ => True)
      (fun failure => failure.isCancelled = true) fun b => ends b = true) :
    Attends watching (x >>= f) ends where
  signals_eq log r traces := by
    rcases traces_bind traces with ⟨failure, rfl, cut⟩ | ⟨first, a, rest, rfl, went, followed⟩
    · exact hx.signals_eq cut
    · have signalled : first.signals = stopped a := hx.signals_eq went
      rw [Log.signals_append, signalled]
      cases told : stopped a with
      | false => exact (goes a told).signals_eq followed
      | true =>
        have ended := (stops a told followed).2
        cases r with
        | ok b => exact ended.symm
        | error failure => exact ended.symm
  watched log r traces signalled := by
    rcases traces_bind traces with ⟨failure, rfl, cut⟩ | ⟨first, a, rest, rfl, went, followed⟩
    · exact hx.watched cut signalled
    · have began : first.signals = stopped a := hx.signals_eq went
      rw [Log.signals_append] at signalled
      cases told : stopped a with
      | true => exact hx.watched went (began.trans told)
      | false =>
        rw [began, told, Bool.false_or] at signalled
        exact (goes a told).watched followed signalled

/-- An action that never stops on its own, and then another one. -/
theorem followed {x : Action τ α} {f : α → Action τ β} (hx : Attends watching x fun _ => false)
    (hf : ∀ a, Attends watching (f a) ends) : Attends watching (x >>= f) ends :=
  hx.bind (fun a _ => hf a) fun _ => nofun

theorem clock : Attends watching (Action.clock : Action τ τ) fun _ => false :=
  .of_ensures <| (Ensures.clock fun _ => rfl).mono (fun _ h => h) (fun _ h => h) fun _ _ => rfl

/-- What a look finds is the signal. -/
theorem isCancelled : Attends watching (Action.isCancelled watching : Action τ Bool) id := by
  cases watching with
  | false => exact of_ensures (.pure rfl)
  | true =>
    refine ⟨fun log r traces => ?_, fun _ _ _ _ => rfl⟩
    cases traces with
    | cancelled isSet rest =>
      cases rest
      exact Bool.or_false isSet

/-- A pause is cut short by a signal alone. -/
theorem pause {delay : τ} : Attends watching (Action.pause delay watching) (!·) where
  signals_eq log r traces := by
    obtain ⟨full, rfl, paused⟩ := traces_pause traces
    exact paused.signals_eq
  watched log r traces signalled := by
    obtain ⟨full, rfl, paused⟩ := traces_pause traces
    cases paused with
    | unwatched => cases signalled
    | stopped | watched _ => rfl

end Attends
end Action

section Schedule

variable [TimeScale τ] (p : RetryPolicy τ)

@[simp] theorem RetryPolicy.signals_drawLog (chance : τ) : (p.drawLog chance).signals = false := by
  unfold drawLog
  split <;> rfl

/-- A schedule gets no signals. -/
theorem RetryPolicy.attends_schedule {watching : Bool} (index : Nat) (elapsed : τ)
    (rateLimited : Bool) :
    Action.Attends watching (p.schedule index elapsed rateLimited) fun _ => false := by
  have silent : ∀ {log : Log τ} {r : Except (Failure τ) (Option τ)},
      (p.schedule index elapsed rateLimited).Traces log r →
        log.signals = false ∧ Action.cancels (fun _ => false) r = false := by
    intro log r traces
    obtain ⟨chance, scheduled⟩ := traces_schedule traces
    cases scheduled with
    | spent _ | overflowed _ => exact ⟨rfl, rfl⟩
    | delayed _ => exact ⟨p.signals_drawLog chance, rfl⟩
  refine ⟨fun log r traces => ?_, fun log r traces signalled => ?_⟩
  · obtain ⟨none, ended⟩ := silent traces
    rw [none, ended]
  · obtain ⟨none, -⟩ := silent traces
    rw [none] at signalled
    cases signalled

end Schedule
end GatewayClient
