import GatewayClient.Proofs.Program.Traces
import GatewayClient.Proofs.Retry.Delays

/-!
# What an action ensures

`Action.Ensures x P F R` says of all traces of `x` that their steps are as `P` says, that they fail
only as `F` allows, and that their results are as `R` says. One rule for each of the actions that
operations are made of; an operation then ensures what its parts do, one after the other.

**Every run is as ensured** (`Action.Ensures.of_runIn`), whatever the world.
-/

set_option autoImplicit false

namespace GatewayClient

/-- The step draws a random number. -/
@[simp] def Event.isDraw {τ : Type} : Event τ → Bool
  | .drew .. => true
  | _ => false

/-- All steps that a program can ever make are of a kind. -/
def Program.Keeps {τ α : Type} (P : Event τ → Prop) (p : Program τ α) : Prop :=
  ∀ ⦃log a⦄, p.Traces log a → ∀ e ∈ log, P e

namespace Action

variable {σ τ α β : Type} {P : Event τ → Prop} {F : Failure τ → Prop} {R : α → Prop}

/-- A result is as `R` says, or a failure that `F` allows. -/
def Meets (F : Failure τ → Prop) (R : α → Prop) : Except (Failure τ) α → Prop
  | .ok a => R a
  | .error failure => F failure

/-- What all traces of an action have in common: its steps, its failures and its results. -/
def Ensures (x : Action τ α) (P : Event τ → Prop) (F : Failure τ → Prop) (R : α → Prop) : Prop :=
  ∀ ⦃log r⦄, x.Traces log r → (∀ e ∈ log, P e) ∧ Meets F R r

/-- A chain keeps to a kind of steps if its parts do. -/
theorem keeps_bind {x : Action τ α} {f : α → Action τ β} (first : Program.Keeps P x.run)
    (next : ∀ a, Program.Keeps P (f a).run) : Program.Keeps P (x >>= f).run := by
  intro log r traces
  rcases traces_bind traces with ⟨failure, rfl, cut⟩ | ⟨before, a, rest, rfl, went, followed⟩
  · exact first cut
  · exact List.forall_mem_append.mpr ⟨first went, next a followed⟩

/-! ## Rules -/

namespace Ensures

/-- Every run is as ensured. -/
theorem of_runIn {x : Action τ α} (h : x.Ensures P F R) (w : World σ τ) (s : σ) :
    (∀ e ∈ (x.runIn w s).events, P e) ∧ Meets F R (x.runIn w s).result :=
  h (traces_runIn x w s)

/-- Whatever an action does, it does something. -/
theorem anything {x : Action τ α} :
    x.Ensures (fun _ => True) (fun _ => True) fun _ => True := by
  intro log r _
  refine ⟨fun _ _ => trivial, ?_⟩
  cases r <;> trivial

/-- What is ensured may be said more broadly. -/
theorem mono {x : Action τ α} {P' : Event τ → Prop} {F' : Failure τ → Prop} {R' : α → Prop}
    (h : x.Ensures P F R) (steps : ∀ e, P e → P' e)
    (failures : ∀ failure, F failure → F' failure) (results : ∀ a, R a → R' a) :
    x.Ensures P' F' R' := by
  intro log r traces
  obtain ⟨held, met⟩ := h traces
  refine ⟨fun e mem => steps e (held e mem), ?_⟩
  cases r with
  | ok a => exact results a met
  | error failure => exact failures failure met

theorem keeps {x : Action τ α} (h : x.Ensures P F R) : Program.Keeps P x.run :=
  fun _ _ traces => (h traces).1

/-- The steps may be of another kind than what else is ensured says. -/
theorem keeping {x : Action τ α} {P' : Event τ → Prop} (h : x.Ensures P F R)
    (keeps : Program.Keeps P' x.run) : x.Ensures P' F R :=
  fun _ _ traces => ⟨keeps traces, (h traces).2⟩

/-- What follows an action may rely on what the action ensures of its result. -/
theorem bind {x : Action τ α} {f : α → Action τ β} {R' : β → Prop} (hx : x.Ensures P F R)
    (hf : ∀ a, R a → (f a).Ensures P F R') : Ensures (x >>= f) P F R' := by
  intro log r traces
  rcases traces_bind traces with ⟨failure, rfl, cut⟩ | ⟨first, a, rest, rfl, went, followed⟩
  · exact hx cut
  · obtain ⟨steps, met⟩ := hx went
    obtain ⟨more, ended⟩ := hf a met followed
    exact ⟨List.forall_mem_append.mpr ⟨steps, more⟩, ended⟩

theorem pure {a : α} (h : R a) : Ensures (Pure.pure a) P F R := by
  intro log r traces
  obtain ⟨rfl, rfl⟩ := traces_pure traces
  exact ⟨nofun, h⟩

theorem fail {failure : Failure τ} (h : F failure) : Ensures (Action.fail failure) P F R := by
  intro log r traces
  obtain ⟨rfl, rfl⟩ := traces_fail traces
  exact ⟨nofun, h⟩

/-- What is computed is as ensured if its results and errors are. -/
theorem lift {ε : Type} {failure : ε → Failure τ} {x : Except ε α}
    (answers : ∀ a, x = .ok a → R a) (fails : ∀ e, x = .error e → F (failure e)) :
    Ensures (Action.lift failure x) P F R := by
  cases x with
  | ok a => exact pure (answers a rfl)
  | error e => exact fail (fails e rfl)

/-- What is expected is there. -/
theorem expect {what : String} {x : Option α} (h : ∃ a, x = some a ∧ R a) :
    Ensures (Action.expect what x) P F R := by
  obtain ⟨a, rfl, holds⟩ := h
  exact pure holds

theorem clock (step : ∀ now, P (.clock now)) : Ensures Action.clock P F fun _ => True := by
  intro log r traces
  cases traces with
  | clock now rest =>
    cases rest
    exact ⟨List.forall_mem_singleton.mpr (step now), trivial⟩

theorem warn {warning : Warning τ} (step : P (.warned warning)) :
    Ensures (Action.warn warning) P F fun _ => True := by
  intro log r traces
  cases traces with
  | warn rest =>
    cases rest
    exact ⟨List.forall_mem_singleton.mpr step, trivial⟩

/-- A look at the event is one step at most. -/
theorem isCancelled {watching : Bool} (step : ∀ isSet, P (.cancelled isSet)) :
    Ensures (Action.isCancelled watching) P F fun _ => True := by
  intro log r traces
  cases watching with
  | false =>
    obtain ⟨rfl, rfl⟩ := traces_pure traces
    exact ⟨nofun, trivial⟩
  | true =>
    cases traces with
    | cancelled isSet rest =>
      cases rest
      exact ⟨List.forall_mem_singleton.mpr (step isSet), trivial⟩

/-- A pause looks at the event and sleeps. -/
theorem pause {delay : τ} {watching : Bool} (looks : ∀ isSet, P (.cancelled isSet))
    (sleeps : P (.slept delay)) : Ensures (Action.pause delay watching) P F fun _ => True := by
  intro log r traces
  obtain ⟨full, rfl, paused⟩ := traces_pause traces
  refine ⟨?_, trivial⟩
  cases paused with
  | unwatched => exact List.forall_mem_singleton.mpr sleeps
  | stopped => exact List.forall_mem_singleton.mpr (looks true)
  | watched isSet => simp [looks, sleeps]

end Ensures
end Action

namespace RetryPolicy

variable {τ : Type} [TimeScale τ] {P : Event τ → Prop} {F : Failure τ → Prop}

/-- Delays that are asked for between two readings of the clock overflow only if the policy
does. -/
theorem ensures_schedule {p : RetryPolicy τ} {index : Nat} {started now : τ} {rateLimited : Bool}
    (draws : p.isJittered = true → ∀ source chance, P (.drew source chance))
    (overflows : p.Overflows → ∀ cause, F (.overflow cause)) :
    Action.Ensures (p.schedule index (now - started) rateLimited) P F fun _ => True := by
  intro log r traces
  obtain ⟨chance, scheduled⟩ := traces_schedule traces
  cases scheduled with
  | spent _ => exact ⟨nofun, trivial⟩
  | overflowed h =>
    obtain ⟨unspent, capped⟩ := nextDelay_eq_error.mp h
    exact ⟨nofun, overflows ⟨_, _, _, _, unspent, cappedDelay_eq_error.mp capped⟩ _⟩
  | delayed _ =>
    refine ⟨?_, trivial⟩
    unfold drawLog
    split
    next jittered => exact List.forall_mem_singleton.mpr (draws jittered _ _)
    next => exact nofun

end RetryPolicy
end GatewayClient
