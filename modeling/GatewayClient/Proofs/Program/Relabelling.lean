import GatewayClient.Proofs.Program.Traces

/-!
# Programs with other requests

A program can be given other requests in place of its own, and goes on with the answers as before
(`Program.mapRequests`). A world that overlooks what is changed about the requests answers both
programs the same.

**Then they run the same** (`Program.run_mapRequests`), up to the requests in the log. So two
programs that become one when their requests are changed cannot be told apart by such a world, nor
by what they report of it.
-/

set_option autoImplicit false

namespace GatewayClient

variable {σ τ α β : Type}

/-- The step with another request. -/
def Event.mapRequest (f : Request τ → Request τ) : Event τ → Event τ
  | .sent request answer => .sent (f request) answer
  | e => e

/-- The steps with other requests. -/
def Log.mapRequests (f : Request τ → Request τ) (log : Log τ) : Log τ :=
  log.map (Event.mapRequest f)

/-- The run with other requests. -/
def Run.mapRequests (f : Request τ → Request τ) (r : Run σ τ α) : Run σ τ α :=
  { r with events := r.events.mapRequests f }

namespace Log

variable {f : Request τ → Request τ} (log : Log τ)

/-- The requests are changed one by one. -/
theorem sent_mapRequests :
    (log.mapRequests f).sent = log.sent.map fun call => (f call.1, call.2) := by
  have each : Event.sent? ∘ Event.mapRequest f =
      fun e : Event τ => e.sent?.map fun call => (f call.1, call.2) := by
    funext e
    cases e <;> rfl
  rw [sent, sent, mapRequests, List.filterMap_map, each, List.map_filterMap]

theorem slept_mapRequests : (log.mapRequests f).slept = log.slept := by
  have each : Event.slept? ∘ Event.mapRequest f = Event.slept? := by
    funext e
    cases e <;> rfl
  rw [slept, slept, mapRequests, List.filterMap_map, each]

theorem warned_mapRequests : (log.mapRequests f).warned = log.warned := by
  have each : Event.warned? ∘ Event.mapRequest f = Event.warned? := by
    funext e
    cases e <;> rfl
  rw [warned, warned, mapRequests, List.filterMap_map, each]

end Log

/-- The answers to requests do not depend on what is changed about them. -/
structure World.Overlooks (w : World σ τ) (f : Request τ → Request τ) : Prop where
  send : ∀ request s, w.send (f request) s = w.send request s
  sendWatched : ∀ request s, w.sendWatched (f request) s = w.sendWatched request s

namespace Program

/-- The program with other requests in place of its own. -/
def mapRequests (f : Request τ → Request τ) : Program τ α → Program τ α
  | done result => done result
  | send request next => send (f request) fun answer => (next answer).mapRequests f
  | sendWatched request next => sendWatched (f request) fun answer => (next answer).mapRequests f
  | sleep delay next => sleep delay (next.mapRequests f)
  | clock next => clock fun now => (next now).mapRequests f
  | cancelled next => cancelled fun isSet => (next isSet).mapRequests f
  | draw source next => draw source fun chance => (next chance).mapRequests f
  | warn warning next => warn warning (next.mapRequests f)

variable {f : Request τ → Request τ}

/-- A chain of programs with other requests is the chain of its parts with other requests. -/
theorem mapRequests_andThen (p : Program τ α) (g : α → Program τ β) :
    (p.andThen g).mapRequests f = (p.mapRequests f).andThen fun a => (g a).mapRequests f := by
  induction p with
  | done a => rfl
  | sleep _ _ ih | warn _ _ ih => simp only [andThen, mapRequests, ih]
  | send _ _ ih | sendWatched _ _ ih | draw _ _ ih => simp only [andThen, mapRequests, ih]
  | clock _ ih | cancelled _ ih => simp only [andThen, mapRequests, ih]

/-- In a world that overlooks the change, a program runs the same with other requests. -/
theorem run_mapRequests {w : World σ τ} (overlooks : w.Overlooks f) (p : Program τ α) (s : σ) :
    (p.mapRequests f).run w s = (p.run w s).mapRequests f := by
  induction p generalizing s with
  | done a => rfl
  | send request next ih =>
    simp only [mapRequests, run, overlooks.send, ih]
    rfl
  | sendWatched request next ih =>
    simp only [mapRequests, run, overlooks.sendWatched, ih]
    rfl
  | sleep _ _ ih | warn _ _ ih =>
    simp only [mapRequests, run, ih]
    rfl
  | clock _ ih | cancelled _ ih | draw _ _ ih =>
    simp only [mapRequests, run, ih]
    rfl

end Program

namespace Action

variable {f : Request τ → Request τ}

/-- The action with other requests in place of its own. -/
def mapRequests (f : Request τ → Request τ) (x : Action τ α) : Action τ α :=
  ExceptT.mk (Program.mapRequests f x.run)

theorem mapRequests_bind (x : Action τ α) (g : α → Action τ β) :
    mapRequests f (x >>= g) = x.mapRequests f >>= fun a => (g a).mapRequests f := by
  refine (Program.mapRequests_andThen _ _).trans ?_
  refine congrArg (Program.andThen (Program.mapRequests f x.run)) (funext fun r => ?_)
  cases r <;> rfl

/-- Chains whose parts are the same with other requests are the same. -/
theorem mapRequests_bind_congr {x y : Action τ α} {g h : α → Action τ β}
    (first : x.mapRequests f = y.mapRequests f)
    (rest : ∀ a, (g a).mapRequests f = (h a).mapRequests f) :
    mapRequests f (x >>= g) = mapRequests f (y >>= h) := by
  rw [mapRequests_bind, mapRequests_bind, first, funext rest]

theorem mapRequests_send (request : Request τ) (watching : Bool) :
    (Action.send request watching).mapRequests f = Action.send (f request) watching := by
  cases watching <;> rfl

/-- In a world that overlooks the change, an action runs the same with other requests. -/
theorem runIn_mapRequests {w : World σ τ} (overlooks : w.Overlooks f) (x : Action τ α) (s : σ) :
    (x.mapRequests f).runIn w s = (x.runIn w s).mapRequests f :=
  Program.run_mapRequests overlooks x.run s

end Action
end GatewayClient
