import GatewayClient.Proofs.Program.CancelEvent
import GatewayClient.Proofs.Program.Ensures

/-!
# Heeding the cancel event

An action heeds the event if it looks at it before each request and each sleep, and goes ahead only
if it is not set. Between the look and the act there is nothing that could set it.

**What heeds the event does nothing after it** (`CancelEvent.unset_of_heeds`): every request and
every sleep begins in a state in which the event is not set.
-/

set_option autoImplicit false

namespace GatewayClient

variable {σ τ α β : Type}

/-! ## Logs that heed the event -/

namespace Log

/-- Every request and every sleep follows a look that found the event unset, and no other request or
sleep is in between. The first argument says whether there was such a look before the log. -/
inductive Heeds : Bool → Log τ → Prop
  | nil (clear : Bool) : Heeds clear []
  | sent {request : Request τ} {answer : Option Outcome} {log : Log τ} (rest : Heeds false log) :
      Heeds true (.sent request answer :: log)
  | slept {delay : τ} {log : Log τ} (rest : Heeds false log) : Heeds true (.slept delay :: log)
  | clock {clear : Bool} {now : τ} {log : Log τ} (rest : Heeds clear log) :
      Heeds clear (.clock now :: log)
  | cancelled {clear isSet : Bool} {log : Log τ} (rest : Heeds (!isSet) log) :
      Heeds clear (.cancelled isSet :: log)
  | drew {clear : Bool} {source : Nat} {chance : τ} {log : Log τ} (rest : Heeds clear log) :
      Heeds clear (.drew source chance :: log)
  | warned {clear : Bool} {warning : Warning τ} {log : Log τ} (rest : Heeds clear log) :
      Heeds clear (.warned warning :: log)

namespace Heeds

variable {clear : Bool} {log more : Log τ}

/-- A look before the log does no harm. -/
theorem of_false (h : Heeds false log) : Heeds clear log := by
  generalize start : false = before at h
  induction h with
  | nil _ => exact .nil clear
  | sent _ | slept _ => cases start
  | clock _ ih => exact .clock (ih start)
  | cancelled rest _ => exact .cancelled rest
  | drew _ ih => exact .drew (ih start)
  | warned _ ih => exact .warned (ih start)

/-- What is noticed by nobody needs no look. -/
theorem of_quiet (quiet : log.acts = []) : Heeds false log := by
  induction log with
  | nil => exact .nil false
  | cons e log ih =>
    cases e with
    | sent _ _ | slept _ => cases quiet
    | clock _ => exact .clock (ih quiet)
    | cancelled _ => exact .cancelled (of_false (ih quiet))
    | drew _ _ => exact .drew (ih quiet)
    | warned _ => exact .warned (ih quiet)

/-- A log that heeds the event may be followed by one that does. -/
theorem append (h : Heeds clear log) (rest : Heeds false more) : Heeds clear (log ++ more) := by
  induction h with
  | nil _ => exact of_false rest
  | sent _ ih => exact .sent ih
  | slept _ ih => exact .slept ih
  | clock _ ih => exact .clock ih
  | cancelled _ ih => exact .cancelled ih
  | drew _ ih => exact .drew ih
  | warned _ ih => exact .warned ih

end Heeds
end Log

/-! ## Where each step begins -/

namespace Program

/-- The steps of a run, each with the state of the world in which it begins. -/
def steps (w : World σ τ) : Program τ α → σ → List (σ × Event τ)
  | done _, _ => []
  | send request next, s =>
    let (answer, after) := w.send request s
    (s, .sent request (some answer)) :: (next answer).steps w after
  | sendWatched request next, s =>
    let (answer, after) := w.sendWatched request s
    (s, .sent request answer) :: (next answer).steps w after
  | sleep delay next, s => (s, .slept delay) :: next.steps w (w.sleep delay s)
  | clock next, s =>
    let (now, after) := w.clock s
    (s, .clock now) :: (next now).steps w after
  | cancelled next, s =>
    let (isSet, after) := w.cancelled s
    (s, .cancelled isSet) :: (next isSet).steps w after
  | draw source next, s =>
    let (chance, after) := w.draw source s
    (s, .drew source chance) :: (next chance).steps w after
  | warn warning next, s => (s, .warned warning) :: next.steps w s

/-- The steps are the events of the run. -/
theorem map_steps (w : World σ τ) (p : Program τ α) (s : σ) :
    (p.steps w s).map (·.2) = (p.run w s).events := by
  induction p generalizing s with
  | done _ => rfl
  | send _ _ ih | sendWatched _ _ ih | clock _ ih | cancelled _ ih | draw _ _ ih =>
    exact congrArg _ (ih _ _)
  | sleep _ _ ih | warn _ _ ih => exact congrArg _ (ih _)

end Program

/-- The requests and sleeps of a run that heeds the event begin while the event is not set. The
invariant is that the event is still unset where the last look found it so and nothing was done
since. -/
theorem CancelEvent.unset_of_heeds {w : World σ τ} (event : CancelEvent w) {p : Program τ α} {s : σ}
    {clear : Bool} (heeds : Log.Heeds clear (p.run w s).events)
    (unset : clear = true → event.isSet s = false) :
    ∀ step ∈ p.steps w s, Log.isAct step.2 = true → event.isSet step.1 = false := by
  induction p generalizing s clear with
  | done _ => exact nofun
  | send request next ih =>
    cases heeds with
    | sent rest => exact List.forall_mem_cons.mpr ⟨fun _ => unset rfl, ih _ rest nofun⟩
  | sendWatched request next ih =>
    cases heeds with
    | sent rest => exact List.forall_mem_cons.mpr ⟨fun _ => unset rfl, ih _ rest nofun⟩
  | sleep delay next ih =>
    cases heeds with
    | slept rest => exact List.forall_mem_cons.mpr ⟨fun _ => unset rfl, ih rest nofun⟩
  | clock next ih =>
    cases heeds with
    | clock rest =>
      refine List.forall_mem_cons.mpr ⟨nofun, ih _ rest fun clear => ?_⟩
      exact (event.clock_snd s).trans (unset clear)
  | cancelled next ih =>
    cases heeds with
    | cancelled rest =>
      refine List.forall_mem_cons.mpr ⟨nofun, ih _ rest fun clear => ?_⟩
      rw [event.cancelled_snd, ← event.cancelled_fst]
      exact Bool.not_eq_true' _ |>.mp clear
  | draw source next ih =>
    cases heeds with
    | drew rest =>
      refine List.forall_mem_cons.mpr ⟨nofun, ih _ rest fun clear => ?_⟩
      exact (event.draw_snd source s).trans (unset clear)
  | warn _ _ ih =>
    cases heeds with
    | warned rest => exact List.forall_mem_cons.mpr ⟨nofun, ih rest unset⟩

/-! ## Actions that heed the event -/

namespace Action

/-- A pause that watches the event sleeps only after a look. -/
theorem Paused.heeds {delay : τ} {full : Bool} {log : Log τ} (h : Paused delay true log full) :
    Log.Heeds false log := by
  cases h with
  | stopped => exact .cancelled (.nil _)
  | watched isSet => exact .cancelled (.slept (.cancelled (.nil _)))

/-- The action heeds the event, whatever it was told before. -/
def Heeds (x : Action τ α) : Prop := ∀ ⦃log r⦄, x.Traces log r → Log.Heeds false log

namespace Heeds

variable {F : Failure τ → Prop} {R : α → Prop}

/-- A chain heeds the event if its parts do. -/
theorem bind {x : Action τ α} {f : α → Action τ β} (hx : x.Heeds) (hf : ∀ a, (f a).Heeds) :
    Heeds (x >>= f) := by
  intro log r traces
  rcases traces_bind traces with ⟨failure, rfl, cut⟩ | ⟨first, a, rest, rfl, went, followed⟩
  · exact hx cut
  · exact (hx went).append (hf a followed)

/-- An action that nobody notices heeds the event. -/
theorem of_ensures {x : Action τ α} (quiet : x.Ensures (fun e => ¬ Log.isAct e = true) F R) :
    x.Heeds := by
  intro log r traces
  have none : log.acts = [] := List.filter_eq_nil_iff.mpr (quiet traces).1
  exact .of_quiet none

theorem clock : (Action.clock : Action τ τ).Heeds :=
  .of_ensures (.clock (F := fun _ => True) fun _ => Bool.false_ne_true)

theorem isCancelled {watching : Bool} : (Action.isCancelled watching : Action τ Bool).Heeds :=
  .of_ensures (.isCancelled (F := fun _ => True) fun _ => Bool.false_ne_true)

/-- A pause that watches the event heeds it. -/
theorem pause {delay : τ} : Heeds (Action.pause delay true) := by
  intro log r traces
  obtain ⟨full, -, paused⟩ := traces_pause traces
  exact paused.heeds

end Heeds
end Action

/-- A schedule only computes, and may draw a number. -/
theorem RetryPolicy.heeds_schedule [TimeScale τ] (p : RetryPolicy τ) (index : Nat)
    (elapsed : τ) (rateLimited : Bool) : (p.schedule index elapsed rateLimited).Heeds := by
  intro log r traces
  obtain ⟨chance, scheduled⟩ := traces_schedule traces
  refine .of_quiet ?_
  cases scheduled with
  | spent _ | overflowed _ => rfl
  | delayed _ => exact acts_drawLog p chance

end GatewayClient
