import GatewayClient.Program.World
import GatewayClient.Retry.Schedule

/-!
# What a program may do

A program is run by a world, but what it may do is said without one: `Program.Traces p log a` holds
when some answers to the steps of `p` make it go through the steps of `log` and end with `a`.

**Every run is a trace** (`Action.traces_runIn`), so a law of all traces of an operation is a law of
its runs in all worlds: for every gateway, every clock, every source of chance and every moment at
which the cancel event is set. The other lemmas take the traces of an action apart, one for each of
the actions that operations are made of.
-/

set_option autoImplicit false

namespace GatewayClient

/-! ## What can be noticed -/

namespace Log

variable {τ : Type}

/-- The step is a request or a sleep: something that others can notice. -/
@[simp] def isAct : Event τ → Bool
  | .sent .. | .slept _ => true
  | _ => false

/-- The requests and the sleeps, in their order. -/
def acts (log : Log τ) : Log τ := log.filter isAct

@[simp] theorem acts_nil : acts ([] : Log τ) = [] := rfl

@[simp] theorem acts_cons (e : Event τ) (log : Log τ) :
    acts (e :: log) = if isAct e then e :: acts log else acts log := by
  cases e <;> rfl

@[simp] theorem acts_append (log more : Log τ) : acts (log ++ more) = acts log ++ acts more :=
  List.filter_append ..

/-- All requests can be noticed. -/
theorem sent_acts (log : Log τ) : sent (acts log) = sent log := by
  induction log with
  | nil => rfl
  | cons e log ih => cases e <;> simp [ih]

theorem slept_acts (log : Log τ) : slept (acts log) = slept log := by
  induction log with
  | nil => rfl
  | cons e log ih =>
    cases e <;> simp [ih]

/-- The same request and sleeps take turns, and a request comes first. -/
inductive Alternates (request : Request τ) : Log τ → Prop
  | nil : Alternates request []
  | sent (answer : Option Outcome) : Alternates request [.sent request answer]
  | slept {answer : Option Outcome} {delay : τ} {log : Log τ} (rest : Alternates request log) :
      Alternates request (.sent request answer :: .slept delay :: log)

/-- No other request is made. -/
theorem Alternates.request_eq {request : Request τ} {log : Log τ}
    (h : Alternates request log.acts) : ∀ call ∈ Log.sent log, call.1 = request := by
  rw [← sent_acts]
  generalize log.acts = log at h
  induction h with
  | nil => exact nofun
  | sent answer => exact List.forall_mem_singleton.mpr rfl
  | slept _ ih => exact List.forall_mem_cons.mpr ⟨rfl, ih⟩

end Log

/-! ## Traces of programs -/

namespace Program

variable {σ τ α β : Type}

/-- Some answers make the program go through the steps of a log and end with a result. A request
that is not watched is always answered. -/
inductive Traces : Program τ α → Log τ → α → Prop
  | done (result : α) : Traces (.done result) [] result
  | send {request : Request τ} {next : Outcome → Program τ α} {log : Log τ} {a : α}
      (answer : Outcome) (rest : Traces (next answer) log a) :
      Traces (.send request next) (.sent request (some answer) :: log) a
  | sendWatched {request : Request τ} {next : Option Outcome → Program τ α} {log : Log τ} {a : α}
      (answer : Option Outcome) (rest : Traces (next answer) log a) :
      Traces (.sendWatched request next) (.sent request answer :: log) a
  | sleep {delay : τ} {next : Program τ α} {log : Log τ} {a : α} (rest : Traces next log a) :
      Traces (.sleep delay next) (.slept delay :: log) a
  | clock {next : τ → Program τ α} {log : Log τ} {a : α} (now : τ)
      (rest : Traces (next now) log a) : Traces (.clock next) (.clock now :: log) a
  | cancelled {next : Bool → Program τ α} {log : Log τ} {a : α} (isSet : Bool)
      (rest : Traces (next isSet) log a) : Traces (.cancelled next) (.cancelled isSet :: log) a
  | draw {source : Nat} {next : τ → Program τ α} {log : Log τ} {a : α} (chance : τ)
      (rest : Traces (next chance) log a) :
      Traces (.draw source next) (.drew source chance :: log) a
  | warn {warning : Warning τ} {next : Program τ α} {log : Log τ} {a : α}
      (rest : Traces next log a) : Traces (.warn warning next) (.warned warning :: log) a

/-- The log of a run is a trace of the program, whatever the world. -/
theorem traces_run (w : World σ τ) (p : Program τ α) (s : σ) :
    p.Traces (p.run w s).events (p.run w s).result := by
  induction p generalizing s with
  | done a => exact .done a
  | send _ _ ih => exact .send _ (ih _ _)
  | sendWatched _ _ ih => exact .sendWatched _ (ih _ _)
  | sleep _ _ ih => exact .sleep (ih _)
  | clock _ ih => exact .clock _ (ih _ _)
  | cancelled _ ih => exact .cancelled _ (ih _ _)
  | draw _ _ ih => exact .draw _ (ih _ _)
  | warn _ _ ih => exact .warn (ih _)

/-- A trace of a chain is a trace of its first part and one of what goes on from its result. -/
theorem traces_andThen {p : Program τ α} {f : α → Program τ β} {log : Log τ} {b : β}
    (h : (p.andThen f).Traces log b) :
    ∃ first a rest, log = first ++ rest ∧ p.Traces first a ∧ (f a).Traces rest b := by
  induction p generalizing log with
  | done a => exact ⟨[], a, log, rfl, .done a, h⟩
  | send request next ih =>
    cases h with
    | send answer h =>
      obtain ⟨first, a, rest, rfl, hp, hf⟩ := ih answer h
      exact ⟨_ :: first, a, rest, rfl, .send answer hp, hf⟩
  | sendWatched request next ih =>
    cases h with
    | sendWatched answer h =>
      obtain ⟨first, a, rest, rfl, hp, hf⟩ := ih answer h
      exact ⟨_ :: first, a, rest, rfl, .sendWatched answer hp, hf⟩
  | sleep delay next ih =>
    cases h with
    | sleep h =>
      obtain ⟨first, a, rest, rfl, hp, hf⟩ := ih h
      exact ⟨_ :: first, a, rest, rfl, .sleep hp, hf⟩
  | clock next ih =>
    cases h with
    | clock now h =>
      obtain ⟨first, a, rest, rfl, hp, hf⟩ := ih now h
      exact ⟨_ :: first, a, rest, rfl, .clock now hp, hf⟩
  | cancelled next ih =>
    cases h with
    | cancelled isSet h =>
      obtain ⟨first, a, rest, rfl, hp, hf⟩ := ih isSet h
      exact ⟨_ :: first, a, rest, rfl, .cancelled isSet hp, hf⟩
  | draw source next ih =>
    cases h with
    | draw chance h =>
      obtain ⟨first, a, rest, rfl, hp, hf⟩ := ih chance h
      exact ⟨_ :: first, a, rest, rfl, .draw chance hp, hf⟩
  | warn warning next ih =>
    cases h with
    | warn h =>
      obtain ⟨first, a, rest, rfl, hp, hf⟩ := ih h
      exact ⟨_ :: first, a, rest, rfl, .warn hp, hf⟩

end Program

/-! ## Traces of actions -/

namespace Action

variable {σ τ α β : Type}

/-- Run an action in a world. -/
def runIn (x : Action τ α) (w : World σ τ) (s : σ) : Run σ τ (Except (Failure τ) α) :=
  Program.run w x.run s

/-- The traces of an action. -/
def Traces (x : Action τ α) (log : Log τ) (r : Except (Failure τ) α) : Prop :=
  Program.Traces x.run log r

/-- The log of a run is a trace of the action, whatever the world. -/
theorem traces_runIn (x : Action τ α) (w : World σ τ) (s : σ) :
    x.Traces (x.runIn w s).events (x.runIn w s).result :=
  Program.traces_run w x.run s

/-- Going on with nothing changes nothing. -/
theorem bind_pure (x : Action τ α) : x >>= pure = x := by
  refine (congrArg x.run.andThen (funext fun r => ?_)).trans x.run.andThen_done
  cases r <;> rfl

/-- An action whose result is changed in the end runs as before. -/
theorem runIn_map (x : Action τ α) (f : α → β) (w : World σ τ) (s : σ) :
    (x >>= fun a => pure (f a)).runIn w s =
      { x.runIn w s with result := (x.runIn w s).result.map f } := by
  refine (Program.run_andThen w x.run _ s).trans ?_
  rw [runIn]
  generalize Program.run w x.run s = r
  obtain ⟨result, events, state⟩ := r
  cases result with
  | ok | error => exact congrArg (Run.mk _ · state) (List.append_nil events)

/-- How the parts of a chain are grouped does not matter. -/
theorem bind_assoc {γ : Type} (x : Action τ α) (f : α → Action τ β) (g : β → Action τ γ) :
    x >>= f >>= g = x >>= fun a => f a >>= g := by
  refine (Program.andThen_assoc x.run _ _).trans (congrArg x.run.andThen (funext fun r => ?_))
  cases r <;> rfl

/-- A step after which an action goes on, or ends with the step's failure. -/
theorem traces_bind {x : Action τ α} {f : α → Action τ β} {log : Log τ}
    {r : Except (Failure τ) β} (h : Traces (x >>= f) log r) :
    (∃ failure, r = .error failure ∧ x.Traces log (.error failure)) ∨
      ∃ first a rest, log = first ++ rest ∧ x.Traces first (.ok a) ∧ (f a).Traces rest r := by
  obtain ⟨first, mid, rest, rfl, hx, hf⟩ := Program.traces_andThen h
  cases mid with
  | ok a => exact .inr ⟨first, a, rest, rfl, hx, hf⟩
  | error failure =>
    cases hf
    exact .inl ⟨failure, rfl, (List.append_nil first).symm ▸ hx⟩

/-- A value leaves nothing in the log. -/
theorem traces_pure {a : α} {log : Log τ} {r : Except (Failure τ) α}
    (h : Traces (pure a) log r) : log = [] ∧ r = .ok a := by
  cases h
  exact ⟨rfl, rfl⟩

theorem traces_fail {failure : Failure τ} {log : Log τ} {r : Except (Failure τ) α}
    (h : Traces (fail failure) log r) : log = [] ∧ r = .error failure := by
  cases h
  exact ⟨rfl, rfl⟩

theorem traces_raise {e : ApiError τ} {log : Log τ} {r : Except (Failure τ) α}
    (h : Traces (raise e) log r) : log = [] ∧ r = .error (.api e) :=
  traces_fail h

theorem traces_refuse {fault : ArgumentFault} {log : Log τ} {r : Except (Failure τ) α}
    (h : Traces (refuse fault) log r) : log = [] ∧ r = .error (.argument fault) :=
  traces_fail h

/-- A reading of the clock comes first, whatever it says. -/
theorem traces_clock {f : τ → Action τ β} {log : Log τ} {r : Except (Failure τ) β}
    (h : Traces (clock >>= f) log r) :
    ∃ now rest, log = .clock now :: rest ∧ (f now).Traces rest r := by
  cases h with
  | clock now rest => exact ⟨now, _, rfl, rest⟩

theorem traces_warn {warning : Warning τ} {f : Unit → Action τ β} {log : Log τ}
    {r : Except (Failure τ) β} (h : Traces (warn warning >>= f) log r) :
    ∃ rest, log = .warned warning :: rest ∧ (f ()).Traces rest r := by
  cases h with
  | warn rest => exact ⟨_, rfl, rest⟩

theorem traces_sleep {delay : τ} {f : Unit → Action τ β} {log : Log τ}
    {r : Except (Failure τ) β} (h : Traces (sleep delay >>= f) log r) :
    ∃ rest, log = .slept delay :: rest ∧ (f ()).Traces rest r := by
  cases h with
  | sleep rest => exact ⟨_, rfl, rest⟩

theorem traces_draw {source : Nat} {f : τ → Action τ β} {log : Log τ}
    {r : Except (Failure τ) β} (h : Traces (draw source >>= f) log r) :
    ∃ chance rest, log = .drew source chance :: rest ∧ (f chance).Traces rest r := by
  cases h with
  | draw chance rest => exact ⟨chance, _, rfl, rest⟩

/-- What a look at the cancel event leaves in the log: nothing if the event is not watched. -/
def lookLog (watching isSet : Bool) : Log τ := if watching then [.cancelled isSet] else []

@[simp] theorem acts_lookLog (watching isSet : Bool) :
    Log.acts (lookLog watching isSet : Log τ) = [] := by
  cases watching <;> rfl

@[simp] theorem readings_lookLog (watching isSet : Bool) :
    Log.readings (lookLog watching isSet : Log τ) = [] := by
  cases watching <;> rfl

/-- A look comes first, if the event is watched; otherwise the event counts as unset. -/
theorem traces_isCancelled {watching : Bool} {f : Bool → Action τ β} {log : Log τ}
    {r : Except (Failure τ) β} (h : Traces (isCancelled watching >>= f) log r) :
    ∃ isSet rest, (isSet = true → watching = true) ∧ log = lookLog watching isSet ++ rest ∧
      (f isSet).Traces rest r := by
  cases watching with
  | false => exact ⟨false, log, nofun, rfl, h⟩
  | true =>
    cases h with
    | cancelled isSet rest => exact ⟨isSet, _, fun _ => rfl, rfl, rest⟩

/-- A request comes first, whatever it is answered with. Only a watched one may be abandoned. -/
theorem traces_send {request : Request τ} {watching : Bool} {f : Option Outcome → Action τ β}
    {log : Log τ} {r : Except (Failure τ) β} (h : Traces (send request watching >>= f) log r) :
    ∃ answer rest, (answer = none → watching = true) ∧ log = .sent request answer :: rest ∧
      (f answer).Traces rest r := by
  cases watching with
  | false =>
    cases h with
    | send answer rest => exact ⟨some answer, _, nofun, rfl, rest⟩
  | true =>
    cases h with
    | sendWatched answer rest => exact ⟨answer, _, fun _ => rfl, rfl, rest⟩

/-! ## Pauses -/

/-- How a pause can go: by the delay, whether the event is watched, what it leaves in the log, and
whether the sleep was a full one. -/
inductive Paused (delay : τ) : Bool → Log τ → Bool → Prop
  | unwatched : Paused delay false [.slept delay] true
  | stopped : Paused delay true [.cancelled true] false
  | watched (isSet : Bool) :
      Paused delay true [.cancelled false, .slept delay, .cancelled isSet] (!isSet)

namespace Paused

variable {delay : τ} {watching full : Bool} {log : Log τ}

/-- A full sleep is all that can be noticed of a pause that went through. -/
theorem acts_full (h : Paused delay watching log true) : log.acts = [.slept delay] := by
  generalize eq : true = full at h
  cases h with
  | unwatched => rfl
  | stopped => exact nomatch eq
  | watched _ => rfl

/-- A pause that the event cut short slept at most once. -/
theorem acts_cut (h : Paused delay watching log false) :
    log.acts = [] ∨ log.acts = [.slept delay] := by
  generalize eq : false = full at h
  cases h with
  | unwatched => exact nomatch eq
  | stopped => exact .inl rfl
  | watched _ => exact .inr rfl

/-- A pause is cut short where the event is seen set. -/
theorem cancelled_mem (h : Paused delay watching log false) : .cancelled true ∈ log := by
  generalize eq : false = full at h
  cases h with
  | unwatched => exact nomatch eq
  | stopped => exact List.mem_singleton_self _
  | watched isSet =>
    cases isSet with
    | false => exact nomatch eq
    | true => exact .tail _ (.tail _ (.head _))

theorem readings_eq (h : Paused delay watching log full) : log.readings = [] := by
  cases h <;> rfl

theorem sent_eq (h : Paused delay watching log full) : log.sent = [] := by
  cases h <;> rfl

end Paused

/-- Every trace of a pause goes in one of its ways. -/
theorem traces_pause {delay : τ} {watching : Bool} {log : Log τ} {r : Except (Failure τ) Bool}
    (h : Traces (pause delay watching) log r) :
    ∃ full, r = .ok full ∧ Paused delay watching log full := by
  obtain ⟨isSet, rest, before, rfl, slept⟩ := traces_isCancelled h
  cases isSet with
  | true =>
    obtain ⟨rfl, rfl⟩ := traces_pure slept
    rw [before rfl]
    exact ⟨false, rfl, .stopped⟩
  | false =>
    obtain ⟨rest, rfl, looked⟩ := traces_sleep slept
    obtain ⟨isSet, rest, after, rfl, done⟩ := traces_isCancelled looked
    obtain ⟨rfl, rfl⟩ := traces_pure done
    refine ⟨!isSet, rfl, ?_⟩
    cases watching with
    | true => exact .watched isSet
    | false =>
      cases isSet with
      | false => exact .unwatched
      | true => exact absurd (after rfl) Bool.false_ne_true

end Action

/-! ## Schedules -/

namespace RetryPolicy

variable {τ : Type} [TimeScale τ]

/-- What a drawn number leaves in the log: nothing if the policy has no jitter. -/
def drawLog (p : RetryPolicy τ) (chance : τ) : Log τ :=
  if p.isJittered then [.drew p.source chance] else []

@[simp] theorem acts_drawLog (p : RetryPolicy τ) (chance : τ) : (p.drawLog chance).acts = [] := by
  unfold drawLog
  split <;> rfl

@[simp] theorem readings_drawLog (p : RetryPolicy τ) (chance : τ) :
    (p.drawLog chance).readings = [] := by
  unfold drawLog
  split <;> rfl

/-- How the delay of a schedule can come out, by the chance that has a say in it. -/
inductive Scheduled (p : RetryPolicy τ) (index : Nat) (elapsed : τ) (rateLimited : Bool)
    (chance : τ) : Log τ → Except (Failure τ) (Option τ) → Prop
  | spent (h : p.nextDelay index elapsed rateLimited chance = .ok none) :
      Scheduled p index elapsed rateLimited chance [] (.ok none)
  | overflowed {cause : Overflow}
      (h : p.nextDelay index elapsed rateLimited chance = .error cause) :
      Scheduled p index elapsed rateLimited chance [] (.error (.overflow cause))
  | delayed {delay : τ} (h : p.nextDelay index elapsed rateLimited chance = .ok (some delay)) :
      Scheduled p index elapsed rateLimited chance (p.drawLog chance) (.ok (some delay))

/-- Every trace of a schedule is one of its ways: spent, overflowing or with a delay. -/
theorem traces_schedule {p : RetryPolicy τ} {index : Nat} {elapsed : τ} {rateLimited : Bool}
    {log : Log τ} {r : Except (Failure τ) (Option τ)}
    (h : Action.Traces (p.schedule index elapsed rateLimited) log r) :
    ∃ chance, p.Scheduled index elapsed rateLimited chance log r := by
  unfold schedule at h
  split at h
  next spent =>
    obtain ⟨rfl, rfl⟩ := Action.traces_pure h
    exact ⟨elapsed, .spent (by rw [nextDelay, if_pos spent])⟩
  next unspent =>
    cases capped : p.cappedDelay index rateLimited with
    | error cause =>
      rw [capped] at h
      cases h
      exact ⟨elapsed, .overflowed (by rw [nextDelay, if_neg unspent, capped])⟩
    | ok delay =>
      rw [capped] at h
      change Action.Traces (if p.isJittered then _ else _) log r at h
      split at h
      next jittered =>
        obtain ⟨chance, rest, rfl, drawn⟩ := Action.traces_draw h
        obtain ⟨rfl, rfl⟩ := Action.traces_pure drawn
        have next : p.nextDelay index elapsed rateLimited chance =
            .ok (some (p.clip elapsed (p.perturb delay chance))) := by
          simp only [nextDelay, if_neg unspent, capped, if_pos jittered]
        have drew : p.drawLog chance = [.drew p.source chance] := if_pos jittered
        exact ⟨chance, drew ▸ .delayed next⟩
      next still =>
        obtain ⟨rfl, rfl⟩ := Action.traces_pure h
        have next : p.nextDelay index elapsed rateLimited elapsed =
            .ok (some (p.clip elapsed delay)) := by
          simp only [nextDelay, if_neg unspent, capped, if_neg still]
        have drew : p.drawLog elapsed = [] := if_neg still
        exact ⟨elapsed, drew ▸ .delayed next⟩

end RetryPolicy
end GatewayClient
