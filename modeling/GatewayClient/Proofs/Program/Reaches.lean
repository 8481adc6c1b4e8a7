import GatewayClient.Proofs.Program.Traces

/-!
# Runs, up to what nobody notices

`x.Reaches w s acts y s'` says that a run of `x` from `s` goes as a run of `y` from `s'` after some
requests and sleeps. Looks at the clock and at the event, drawn numbers and warnings are left aside:
two actions that ask for different things on the way, and do the same, reach the same.

The rules follow an action step by step (`Action.Reaches.bind`, `Action.Reaches.trans`); every
action reaches its own end (`Action.reaches_settled`). In a world that stands still between requests
and sleeps a reading or a look leads nowhere else.
-/

set_option autoImplicit false

namespace GatewayClient

variable {σ τ α β : Type}

namespace World

/-- Nothing happens in the world but while a request or a sleep is under way: readings of the clock
and looks at the event leave it as it is. -/
structure Still (w : World σ τ) : Prop where
  clock : ∀ s, (w.clock s).2 = s
  cancelled : ∀ s, (w.cancelled s).2 = s

/-- What a look at the event finds. -/
def sees (w : World σ τ) (watching : Bool) (s : σ) : Bool := watching && (w.cancelled s).1

/-- What becomes of a request. -/
def ask (w : World σ τ) (request : Request τ) (watching : Bool) (s : σ) : Option Outcome × σ :=
  if watching then w.sendWatched request s
  else (some (w.send request s).1, (w.send request s).2)

end World

namespace Action

/-- The action that does nothing and ends as given. -/
def settled (r : Except (Failure τ) α) : Action τ α := ExceptT.mk (.done r)

/-- A run of `x` from `s` goes as a run of `y` from `s'`, after the requests and sleeps that are
given. -/
structure Reaches (w : World σ τ) (x : Action τ α) (s : σ) (acts : Log τ) (y : Action τ α)
    (s' : σ) : Prop where
  result_eq : (x.runIn w s).result = (y.runIn w s').result
  state_eq : (x.runIn w s).state = (y.runIn w s').state
  acts_eq : (x.runIn w s).events.acts = acts ++ (y.runIn w s').events.acts

variable {w : World σ τ} {x y z : Action τ α} {s s' s'' : σ} {acts more : Log τ}

theorem Reaches.refl : Reaches w x s [] x s := ⟨rfl, rfl, rfl⟩

theorem Reaches.trans (first : Reaches w x s acts y s') (rest : Reaches w y s' more z s'') :
    Reaches w x s (acts ++ more) z s'' where
  result_eq := first.result_eq.trans rest.result_eq
  state_eq := first.state_eq.trans rest.state_eq
  acts_eq := by rw [first.acts_eq, rest.acts_eq, List.append_assoc]

/-- A silent step, and then others. -/
theorem Reaches.after (first : Reaches w x s [] y s') (rest : Reaches w y s' more z s'') :
    Reaches w x s more z s'' :=
  first.trans rest

/-- What goes on with the end of an action goes as the action does. -/
theorem Reaches.andThen (h : Reaches w x s acts y s')
    (g : Except (Failure τ) α → Program τ (Except (Failure τ) β)) :
    Reaches w (ExceptT.mk (x.run.andThen g)) s acts (ExceptT.mk (y.run.andThen g)) s' := by
  have ran : ∀ (z : Action τ α) (s : σ), runIn (ExceptT.mk (z.run.andThen g)) w s =
      Run.followUp (z.runIn w s) ((g (z.runIn w s).result).run w (z.runIn w s).state) :=
    fun z s => Program.run_andThen w z.run g s
  refine ⟨?_, ?_, ?_⟩
  · simp only [ran, Run.followUp, h.result_eq, h.state_eq]
  · simp only [ran, Run.followUp, h.result_eq, h.state_eq]
  · simp only [ran, Run.followUp, h.result_eq, h.state_eq, Log.acts_append, h.acts_eq,
      List.append_assoc]

/-- A chain goes as its first part does. -/
theorem Reaches.bind (h : Reaches w x s acts y s') (f : α → Action τ β) :
    Reaches w (x >>= f) s acts (y >>= f) s' :=
  h.andThen (ExceptT.bindCont f)

/-- Every action reaches its end. -/
theorem reaches_settled (w : World σ τ) (x : Action τ α) (s : σ) :
    Reaches w x s (x.runIn w s).events.acts (settled (x.runIn w s).result) (x.runIn w s).state :=
  ⟨rfl, rfl, (List.append_nil _).symm⟩

section Steps

theorem reaches_warn (warning : Warning τ) (f : Unit → Action τ β) :
    Reaches w (warn warning >>= f) s [] (f ()) s :=
  (reaches_settled w (warn warning) s).bind f

/-- A reading leads nowhere else in a world that stands still. -/
theorem reaches_clock (still : w.Still) (f : τ → Action τ β) :
    Reaches w (clock >>= f) s [] (f (w.clock s).1) s := by
  have read := (reaches_settled w clock s).bind f
  have stays : (clock.runIn w s).state = s := still.clock s
  rw [stays] at read
  exact read

/-- So does a look. -/
theorem reaches_isCancelled (still : w.Still) (watching : Bool) (f : Bool → Action τ β) :
    Reaches w (isCancelled watching >>= f) s [] (f (w.sees watching s)) s := by
  cases watching with
  | false => exact .refl
  | true =>
    have looked := (reaches_settled w (isCancelled true) s).bind f
    have stays : ((isCancelled true).runIn w s).state = s := still.cancelled s
    rw [stays] at looked
    exact looked

/-- A request leads to what the world makes of it. -/
theorem reaches_send (request : Request τ) (watching : Bool) (f : Option Outcome → Action τ β) :
    Reaches w (send request watching >>= f) s [.sent request (w.ask request watching s).1]
      (f (w.ask request watching s).1) (w.ask request watching s).2 := by
  cases watching with
  | false => exact (reaches_settled w (send request false) s).bind f
  | true => exact (reaches_settled w (send request true) s).bind f

end Steps
end Action
end GatewayClient
