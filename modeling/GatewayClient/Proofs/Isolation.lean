import GatewayClient.Proofs.Endpoint.Paths
import GatewayClient.Proofs.Session

/-!
# Real networks are left alone

The operations that control a simulator all have paths below `simulator`, and no other operation has
(`simulator_mem_template`). A client of a real network resolves none of them.

**No argument leads there either** (`Client.never_controls`): whatever a client of a real network is
asked to do, with whatever it is told to write into paths and queries, none of its requests has a
path that begins with `simulator`, and none has one when dot segments are removed.
-/

set_option autoImplicit false

namespace GatewayClient

variable {σ τ : Type}

/-- The path of the request below a base URL begins with another segment, whether or not dot
segments are removed from it. -/
def Request.Avoids (baseUrl segment : String) (r : Request τ) : Prop :=
  ∃ target, r.url = baseUrl ++ target ∧
    let path := Path.ofTarget target.toList
    Path.first path ≠ segment.toList ∧ Path.first (Path.removeDots path) ≠ segment.toList

/-- A path that begins with one of the roots does not begin with another word. -/
theorem Path.BeginsIn.first_ne {roots : List (List Char)} {path word : List Char}
    (h : BeginsIn roots path) (other : word ∉ roots) (filled : word ≠ []) : first path ≠ word := by
  rintro rfl
  rcases h with empty | root
  · exact filled empty
  · exact other root

/-- The word of the simulator is no root of an operation that does not control one. -/
theorem simulator_not_mem_roots (version : ApiVersion) {op : Operation}
    (other : op.simulatorOnly = false) :
    "simulator".toList ∉ Segment.roots (template version op).segments := by
  intro known
  obtain ⟨text, mem, same⟩ := Segment.mem_roots.mp known
  rw [String.toList_inj] at same
  subst same
  exact Bool.false_ne_true (other.symm.trans ((simulator_mem_template version op).mp mem))

section Clients

variable [TimeScale τ] {c : Client τ}

/-- A client of a real network has routes for no operation that controls a simulator. -/
theorem Catalog.simulatorOnly_eq_false {c : Catalog} {op : Operation} {values : PathValues}
    {query : Query} {route : Route} (real : c.simulator = false)
    (resolves : c.route op values query = .ok route) : op.simulatorOnly = false := by
  obtain ⟨available, -, -⟩ := route_eq_ok_iff.mp resolves
  rw [real] at available
  exact Bool.eq_false_iff.mpr fun needs => Bool.false_ne_true (available needs)

/-- Whatever a client of a real network asks for, no simulator is controlled by it. -/
theorem Client.Asks.avoids {allowed : Operation → Prop} {request : Request τ}
    (h : c.Asks allowed request) (real : c.config.simulator = false) :
    request.Avoids c.config.baseUrl "simulator" := by
  obtain ⟨op, values, query, route, body, -, resolves, rfl⟩ := h
  have other : op.simulatorOnly = false := Catalog.simulatorOnly_eq_false real resolves
  have unknown := simulator_not_mem_roots c.config.catalog.version other
  obtain ⟨begins, begins_without⟩ := first_written c.config.catalog.version op values
  refine ⟨route.path ++ route.query.search, route.url_eq c.config.baseUrl, ?_⟩
  rw [(Catalog.ofTarget_eq resolves).1]
  exact ⟨begins.first_ne unknown (by decide), begins_without.first_ne unknown (by decide)⟩

/-- A client of a real network refuses every operation that controls a simulator. -/
theorem Client.callNamed_simulatorOnly {op : Operation} (needs : op.simulatorOnly = true)
    (real : c.config.simulator = false) (values : PathValues) (query : Query)
    (body : Option Bytes) (idempotent : Bool) (o : CallOptions τ) :
    c.callNamed op.name values query body idempotent o =
      Action.fail (RouteFault.simulatorOnly op).toFailure := by
  have refused : c.config.catalog.route op values query = .error (.simulatorOnly op) := by
    have lacks : c.config.catalog.simulator = false := real
    rw [Catalog.route, needs, lacks]
    rfl
  rw [callNamed, op.ofName?_name]
  show c.call op values query body idempotent o = _
  rw [call, refused]
  rfl

end Clients

variable [TimeScale τ]

/-- A client of a real network never controls a simulator: no request of a session begins its path
with the word for it, calls by name included, and nor does what is left of the path without its dot
segments. An operation that controls one is a fatal error without a request, and the client is no
client of a simulator. -/
theorem Client.never_controls (w : World σ τ) (c : Client τ) (real : c.config.simulator = false) :
    (∀ (steps : List (SessionStep σ τ)) (s : σ),
      ∀ call ∈ (Session.log w c steps s).sent, call.1.Avoids c.config.baseUrl "simulator") ∧
    (∀ op : Operation, op.simulatorOnly = true → ∀ (values : PathValues) (query : Query)
        (body : Option Bytes) (idempotent : Bool) (o : CallOptions τ) (s : σ),
      let r := (c.callNamed op.name values query body idempotent o).runIn w s
      r.events = [] ∧ r.state = s ∧ r.result = .error (.api
        { kind := .fatal
          message := (op.name ++ " is only available against a chain simulator" : String) })) ∧
    Simulator.ofClient c = .error (.realNetwork c.config.baseUrl) := by
  refine ⟨?_, ?_, ?_⟩
  · intro steps s call mem
    obtain ⟨e, mem, sent⟩ := List.mem_filterMap.mp mem
    exact ((Session.routed w c steps s e mem).asks sent).avoids real
  · intro op needs values query body idempotent o s
    rw [callNamed_simulatorOnly needs real]
    exact ⟨rfl, rfl, rfl⟩
  · have not_simulator : ¬ c.config.simulator = true := Bool.eq_false_iff.mp real
    rw [Simulator.ofClient, dif_neg not_simulator]

/-- A storage key is asked for at an address that climbs, and then the state of a simulator is to be
set. One request is made, and it controls nothing. -/
theorem Client.never_controls_climbing :
    let c : Client Float :=
      { config := { onThisMachine.config with baseUrl := devnetGateway, simulator := false } }
    let climb : SessionStep (Script Float) Float := .command id
      (.call "account_storage_key" [("address", .text ".."), ("key", .text "simulator/set-state")]
        [] none true) {}
    let seed : SessionStep (Script Float) Float :=
      .command id (.call "simulator_set_state" [] [] none false) {}
    let s : Script Float :=
      { now := 0.0, replies := [⟨some (.response { status := 404 }), 0.25, false⟩] }
    let log := Session.log Script.world c [climb, seed] s
    let r := (c.callNamed "simulator_set_state" [] [] none false {}).runIn Script.world s
    c.config.simulator = false ∧
      (log.sent.map fun call => call.1.url) =
        [devnetGateway ++ "/address/../key/simulator%2Fset-state"] ∧
      (∀ call ∈ log.sent, call.1.Avoids devnetGateway "simulator") ∧
      (r.events = [] ∧ r.state = s ∧ r.result = .error (.api
        { kind := .fatal
          message := "simulator_set_state is only available against a chain simulator" })) ∧
      Simulator.ofClient c = .error (.realNetwork devnetGateway) := by
  intro c climb seed s log r
  obtain ⟨avoids, refused, unwrapped⟩ := never_controls Script.world c rfl
  exact ⟨rfl, by decide +kernel, avoids [climb, seed] s,
    refused .simulatorSetState rfl [] [] none false {} s, unwrapped⟩

end GatewayClient
