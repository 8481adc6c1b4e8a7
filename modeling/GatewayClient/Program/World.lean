import GatewayClient.Program.Basic

/-!
# Running programs

A world says how each step of a program is answered, from a state of its own. A run of a program
gives its result, the state that the world is left in, and the log of its steps with their
answers.

**Runs compose** (`Program.run_andThen`): a program that goes on with another one runs as the first
does, and then as the second does from where the first left the world.
-/

set_option autoImplicit false

namespace GatewayClient

/-- How the steps of programs are answered. The answer to a watched request is missing if the
request is abandoned. -/
structure World (σ τ : Type) where
  send : Request τ → σ → Outcome × σ
  sendWatched : Request τ → σ → Option Outcome × σ
  sleep : τ → σ → σ
  clock : σ → τ × σ
  cancelled : σ → Bool × σ
  draw : Nat → σ → τ × σ

/-- A step of a run, with its answer. -/
inductive Event (τ : Type) where
  | sent (request : Request τ) (answer : Option Outcome)
  | slept (delay : τ)
  | clock (now : τ)
  | cancelled (isSet : Bool)
  | drew (source : Nat) (chance : τ)
  | warned (warning : Warning τ)

namespace Event

variable {τ : Type}

/-- The request of a step, with its answer. -/
@[simp] def sent? : Event τ → Option (Request τ × Option Outcome)
  | .sent request answer => some (request, answer)
  | _ => none

/-- The length of the sleep. -/
@[simp] def slept? : Event τ → Option τ
  | .slept delay => some delay
  | _ => none

/-- What the clock said. -/
@[simp] def reading? : Event τ → Option τ
  | .clock now => some now
  | _ => none

/-- The warning. -/
@[simp] def warned? : Event τ → Option (Warning τ)
  | .warned warning => some warning
  | _ => none

end Event

/-- The steps of a run, in order. -/
abbrev Log (τ : Type) := List (Event τ)

namespace Log

variable {τ : Type}

/-- The requests, with their answers. -/
def sent (log : Log τ) : List (Request τ × Option Outcome) := log.filterMap Event.sent?

/-- The sleeps. -/
def slept (log : Log τ) : List τ := log.filterMap Event.slept?

/-- The readings of the clock. -/
def readings (log : Log τ) : List τ := log.filterMap Event.reading?

/-- The warnings. -/
def warned (log : Log τ) : List (Warning τ) := log.filterMap Event.warned?

@[simp] theorem sent_nil : sent ([] : Log τ) = [] := rfl

@[simp] theorem slept_nil : slept ([] : Log τ) = [] := rfl

@[simp] theorem readings_nil : readings ([] : Log τ) = [] := rfl

@[simp] theorem sent_cons (e : Event τ) (log : Log τ) :
    sent (e :: log) = e.sent?.toList ++ sent log := by
  cases e <;> rfl

@[simp] theorem slept_cons (e : Event τ) (log : Log τ) :
    slept (e :: log) = e.slept?.toList ++ slept log := by
  cases e <;> rfl

@[simp] theorem readings_cons (e : Event τ) (log : Log τ) :
    readings (e :: log) = e.reading?.toList ++ readings log := by
  cases e <;> rfl

@[simp] theorem sent_append (log more : Log τ) : sent (log ++ more) = sent log ++ sent more :=
  List.filterMap_append

@[simp] theorem slept_append (log more : Log τ) : slept (log ++ more) = slept log ++ slept more :=
  List.filterMap_append

@[simp] theorem readings_append (log more : Log τ) :
    readings (log ++ more) = readings log ++ readings more :=
  List.filterMap_append

end Log

/-- What a run gives. -/
structure Run (σ τ α : Type) where
  result : α
  events : Log τ
  state : σ

namespace Run

variable {σ τ α : Type}

/-- The run with an earlier event. -/
def after (event : Event τ) (r : Run σ τ α) : Run σ τ α := { r with events := event :: r.events }

/-- The run that starts with what an earlier run did. -/
def followUp {β : Type} (earlier : Run σ τ β) (r : Run σ τ α) : Run σ τ α :=
  { r with events := earlier.events ++ r.events }

/-- The requests of the run, with their answers. -/
def sent (r : Run σ τ α) : List (Request τ × Option Outcome) := r.events.sent

/-- The sleeps of the run. -/
def slept (r : Run σ τ α) : List τ := r.events.slept

/-- The warnings of the run. -/
def warned (r : Run σ τ α) : List (Warning τ) := r.events.warned

/-- How many requests were abandoned. -/
def abandoned (r : Run σ τ α) : Nat := (r.sent.filter fun call => call.2.isNone).length

end Run

namespace Program

variable {σ τ α : Type}

/-- Run a program in a world. -/
def run (w : World σ τ) : Program τ α → σ → Run σ τ α
  | done result, s => { result, events := [], state := s }
  | send request next, s =>
    let (answer, s) := w.send request s
    ((next answer).run w s).after (.sent request (some answer))
  | sendWatched request next, s =>
    let (answer, s) := w.sendWatched request s
    ((next answer).run w s).after (.sent request answer)
  | sleep delay next, s => (next.run w (w.sleep delay s)).after (.slept delay)
  | clock next, s =>
    let (now, s) := w.clock s
    ((next now).run w s).after (.clock now)
  | cancelled next, s =>
    let (isSet, s) := w.cancelled s
    ((next isSet).run w s).after (.cancelled isSet)
  | draw source next, s =>
    let (chance, s) := w.draw source s
    ((next chance).run w s).after (.drew source chance)
  | warn warning next, s => (next.run w s).after (.warned warning)

/-- A chain runs as its parts do, one after the other. -/
theorem run_andThen {β : Type} (w : World σ τ) (p : Program τ α) (f : α → Program τ β) (s : σ) :
    (p.andThen f).run w s =
      Run.followUp (p.run w s) ((f (p.run w s).result).run w (p.run w s).state) := by
  induction p generalizing s with
  | done a => rfl
  | sleep _ _ ih | warn _ _ ih => simp [andThen, run, ih, Run.after, Run.followUp]
  | send _ _ ih | sendWatched _ _ ih => simp [andThen, run, ih, Run.after, Run.followUp]
  | clock _ ih | cancelled _ ih => simp [andThen, run, ih, Run.after, Run.followUp]
  | draw _ _ ih => simp [andThen, run, ih, Run.after, Run.followUp]

end Program
end GatewayClient
