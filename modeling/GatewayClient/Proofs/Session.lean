import GatewayClient.Poll.Batch
import GatewayClient.Proofs.Client.Commands
import GatewayClient.Proofs.Program.CancelEvent

/-!
# Sessions

A session is what one client is asked to do, one command after the other. Between commands the world
may change as it likes: time passes, the gateway answers differently, the cancel event is set or
cleared.

**Nothing is sent twice** (`Session.broadcasts_le`): a session makes at most one request that sends
transactions for each of its commands that send them, unless it calls an operation by its name.
-/

set_option autoImplicit false

namespace GatewayClient

/-! ## Requests that send transactions -/

/-- The requests that send transactions to the gateway of a base URL. -/
def Log.broadcasts {τ : Type} (baseUrl : String) (log : Log τ) : List (Request τ) :=
  (log.sent.map (·.1)).filter (·.isBroadcast baseUrl)

theorem Log.broadcasts_append {τ : Type} (baseUrl : String) (log more : Log τ) :
    broadcasts baseUrl (log ++ more) = broadcasts baseUrl log ++ broadcasts baseUrl more := by
  rw [broadcasts, sent_append, List.map_append, List.filter_append]
  rfl

/-- No more requests send transactions than there are. -/
theorem Log.length_broadcasts_le {τ : Type} (baseUrl : String) (log : Log τ) :
    (log.broadcasts baseUrl).length ≤ log.sent.length := by
  have le := List.length_filter_le (fun r : Request τ => r.isBroadcast baseUrl) (log.sent.map (·.1))
  rwa [List.length_map] at le

/-- A log whose steps send no transactions has no such request. -/
theorem Log.broadcasts_eq_nil {τ : Type} {baseUrl : String} {log : Log τ}
    (spares : ∀ e ∈ log, e.Spares baseUrl) : log.broadcasts baseUrl = [] := by
  induction log with
  | nil => rfl
  | cons e log ih =>
    obtain ⟨own, others⟩ := List.forall_mem_cons.mp spares
    have rest := ih others
    cases e with
    | sent request answer =>
      have other : request.isBroadcast baseUrl = false := own
      rw [broadcasts] at rest ⊢
      simp [other, rest]
    | slept _ | clock _ | cancelled _ | drew _ _ | warned _ => exact rest

variable {σ τ α : Type} [TimeScale τ]

/-! ## Commands -/

namespace Command

/-- The command names no operation itself. -/
def isTyped : Command τ α → Bool
  | call .. => false
  | _ => true

/-- The command sends transactions. -/
def sends : Command τ α → Bool
  | write w => w.operation.broadcasts
  | sendAndConfirm .. => true
  | _ => false

/-- A command that sends no transactions makes no request that does. -/
theorem spares (c : Client τ) (o : CallOptions τ) (command : Command τ α)
    (typed : command.isTyped = true) (other : command.sends = false) {log : Log τ}
    {r : Except (Failure τ) α} (h : (command.run c o).Traces log r) :
    ∀ e ∈ log, e.Spares c.config.baseUrl := by
  cases command with
  | read r => exact fun e mem => ((r.behaves c o h).1 e mem).spares
  | write w => exact fun e mem => ((w.behaves c o.watching other h).1 e mem).spares
  | call => cases typed
  | sendAndConfirm => cases other
  | poll hash withResults => exact fun e mem => ((Poll.behaves_run _ h).1 e mem).spares
  | pause delay =>
    have pauses : (Action.pause delay o.watching).Ensures (Event.Spares c.config.baseUrl)
        (fun _ => True) fun _ => True := .pause (fun _ => trivial) trivial
    exact (pauses h).1

/-- A write makes at most one request, whether it accepts its arguments or not. -/
theorem write_sent_le_one (write : Write α) {c : Client τ} {watching : Bool} {log : Log τ}
    {r : Except (Failure τ) α} (h : (write.run c watching).Traces log r) : log.sent.length ≤ 1 := by
  by_cases accepted : write.Accepted c
  · exact (Write.once_of_traces accepted h).sent_le_one
  · have refused : ∃ fault, write.run c watching = Action.refuse fault :=
      Write.run_eq_of_not_accepted accepted
    obtain ⟨fault, eq⟩ := refused
    rw [eq] at h
    obtain ⟨rfl, -⟩ := Action.traces_refuse h
    exact Nat.zero_le 1

/-- A command makes at most one request that sends transactions, and none if it does not send
any. -/
theorem broadcasts_le (c : Client τ) (o : CallOptions τ) (command : Command τ α)
    (typed : command.isTyped = true) {log : Log τ} {r : Except (Failure τ) α}
    (h : (command.run c o).Traces log r) :
    (log.broadcasts c.config.baseUrl).length ≤ command.sends.toNat := by
  cases sends : command.sends with
  | false =>
    rw [Log.broadcasts_eq_nil (command.spares c o typed sends h)]
    exact Nat.le_refl 0
  | true =>
    cases command with
    | read | call | poll | pause => cases sends
    | write w => exact Nat.le_trans (log.length_broadcasts_le _) (write_sent_le_one w h)
    | sendAndConfirm request blocks withResults =>
      by_cases isSimulator : c.config.simulator = true
      · have h : (c.onSimulator _).Traces log r := h
        rw [Client.onSimulator_eq isSimulator, Simulator.sendAndConfirm_eq] at h
        rcases Action.traces_bind h with ⟨failure, rfl, cut⟩ | ⟨first, hash, rest, rfl, sent, went⟩
        · exact Nat.le_trans (log.length_broadcasts_le _)
            (write_sent_le_one (.sendTransaction request) cut)
        · have once : first.sent.length ≤ 1 :=
            write_sent_le_one (.sendTransaction request) sent
          have filled : hash ≠ "" := ((Write.sendTransaction request).ensures_run c o.watching
            (P := fun _ => True) (fun _ _ => trivial) (fun _ _ _ => trivial) sent).2
          -- What follows the sending asks for blocks and for the transaction, neither of which
          -- sends any.
          have routed := (Simulator.ensures_confirm ⟨c, isSimulator⟩ blocks withResults o.watching
            filled went).1
          have spares : ∀ e ∈ rest, e.Spares c.config.baseUrl := fun e mem => (routed e mem).spares
          rw [Log.broadcasts_append, Log.broadcasts_eq_nil spares, List.append_nil]
          exact Nat.le_trans (first.length_broadcasts_le _) once
      · have refused : ∃ fault, c.onSimulator (fun s => s.sendAndConfirm request blocks withResults
            o.watching) = Action.refuse fault :=
          Client.onSimulator_refuses fun simulates => absurd simulates isSimulator
        obtain ⟨fault, eq⟩ := refused
        have h : (c.onSimulator _).Traces log r := h
        rw [eq] at h
        obtain ⟨rfl, -⟩ := Action.traces_refuse h
        exact Nat.zero_le 1

end Command

/-! ## Steps of a session -/

/-- A step of a session: what happens in the world before it, and what the client is then asked to
do. Several transactions can be waited for at once. -/
inductive SessionStep (σ τ : Type) [TimeScale τ] : Type 1 where
  | command {α : Type} (before : σ → σ) (command : Command τ α) (o : CallOptions τ)
  | pollMany (before : σ → σ) (hashes : List String) (withResults : Bool) (o : CallOptions τ)

namespace SessionStep

/-- What a step leaves in the log, and the world that it leaves. Polls that run at once are taken
one after the other. -/
def run (w : World σ τ) (c : Client τ) : SessionStep σ τ → σ → Log τ × σ
  | command before asked o, s =>
    let r := (asked.run c o).runIn w (before s)
    (r.events, r.state)
  | pollMany before hashes withResults o, s =>
    let poll : Poll τ :=
      { client := c
        policy := o.policy.getD defaultPollPolicy
        hash := ""
        withResults
        watching := o.watching }
    ((poll.runMany hashes w (before s)).flatMap (·.run.events), before s)

/-- The step names no operation itself. -/
def isTyped : SessionStep σ τ → Bool
  | command _ asked _ => asked.isTyped
  | pollMany .. => true

/-- The step sends transactions. -/
def sends : SessionStep σ τ → Bool
  | command _ asked _ => asked.sends
  | pollMany .. => false

/-- A step makes at most one request that sends transactions, and none if it does not send any. -/
theorem broadcasts_le (w : World σ τ) (c : Client τ) (step : SessionStep σ τ)
    (typed : step.isTyped = true) (s : σ) :
    ((step.run w c s).1.broadcasts c.config.baseUrl).length ≤ step.sends.toNat := by
  cases step with
  | command before asked o =>
    exact asked.broadcasts_le c o typed (Action.traces_runIn (asked.run c o) w (before s))
  | pollMany before hashes withResults o =>
    have spares : ∀ e ∈ ((SessionStep.pollMany before hashes withResults o).run w c s).1,
        e.Spares c.config.baseUrl := by
      intro e mem
      obtain ⟨polled, ran, mem⟩ := List.mem_flatMap.mp mem
      obtain ⟨poll, many, rfl⟩ := List.mem_map.mp ran
      obtain ⟨hash, -, rfl⟩ := List.mem_map.mp many
      exact (((Poll.behaves_run _).of_runIn w (before s)).1 e mem).spares
    rw [Log.broadcasts_eq_nil spares]
    exact Nat.le_refl 0

/-- A step asks for nothing but routes of its client, named operations included. -/
theorem routed (w : World σ τ) (c : Client τ) (step : SessionStep σ τ) (s : σ) :
    ∀ e ∈ (step.run w c s).1, e.Routed c fun _ => True := by
  cases step with
  | command before asked o => exact ((asked.ensures c o).of_runIn w (before s)).1
  | pollMany before hashes withResults o =>
    intro e mem
    obtain ⟨polled, ran, mem⟩ := List.mem_flatMap.mp mem
    obtain ⟨poll, many, rfl⟩ := List.mem_map.mp ran
    obtain ⟨hash, -, rfl⟩ := List.mem_map.mp many
    have asked := ((Poll.behaves_run _).of_runIn w (before s)).1 e mem
    exact asked.mono fun _ _ => trivial

end SessionStep

/-! ## Sessions -/

namespace Session

/-- What a session leaves in the log. -/
def log (w : World σ τ) (c : Client τ) : List (SessionStep σ τ) → σ → Log τ
  | [], _ => []
  | step :: rest, s =>
    let (first, s) := step.run w c s
    first ++ log w c rest s

/-- A session asks for nothing but routes of its client. -/
theorem routed (w : World σ τ) (c : Client τ) (steps : List (SessionStep σ τ)) (s : σ) :
    ∀ e ∈ log w c steps s, e.Routed c fun _ => True := by
  induction steps generalizing s with
  | nil => exact nofun
  | cons step rest ih =>
    rw [log]
    exact List.forall_mem_append.mpr ⟨step.routed w c s, ih _⟩

/-- A session makes at most one request that sends transactions for each of its steps that send
them. -/
theorem broadcasts_le (w : World σ τ) (c : Client τ) {steps : List (SessionStep σ τ)}
    (typed : ∀ step ∈ steps, step.isTyped = true) (s : σ) :
    ((log w c steps s).broadcasts c.config.baseUrl).length ≤
      (steps.filter SessionStep.sends).length := by
  induction steps generalizing s with
  | nil => exact Nat.le_refl 0
  | cons step rest ih =>
    obtain ⟨own, others⟩ := List.forall_mem_cons.mp typed
    have first := step.broadcasts_le w c own s
    have later := ih others (step.run w c s).2
    rw [log, Log.broadcasts_append, List.length_append, List.filter_cons]
    cases sends : step.sends with
    | true =>
      rw [sends] at first
      rw [if_pos rfl, List.length_cons]
      exact Nat.add_comm 1 _ ▸ Nat.add_le_add first later
    | false =>
      rw [sends] at first
      rw [if_neg Bool.false_ne_true]
      exact Nat.zero_add (rest.filter SessionStep.sends).length ▸ Nat.add_le_add first later

end Session

/-- A write whose arguments are accepted makes its request at most once and never sleeps: exactly
once unless the cancel event is set when it begins. The failure of the request is reported as it is.
So a session sends no more than it is asked to. -/
theorem write_at_most_once (w : World σ τ) (c : Client τ) :
    (∀ {α : Type} (write : Write α), write.Accepted c → ∀ (watching : Bool) (s : σ),
      let r := (write.run c watching).runIn w s
      r.sent.length ≤ 1 ∧ r.slept = [] ∧
        (∀ event : CancelEvent w, (watching = true → event.isSet s = false) →
          r.sent.length = 1) ∧
        ∀ (request : Request τ) (outcome : Outcome) (e : ApiError τ),
          (request, some outcome) ∈ r.sent → outcome.payload = .error e →
          r.result = .error (.api (e.counting 1)) ∧ e.kind ≠ .timedOut) ∧
      ∀ steps : List (SessionStep σ τ), (∀ step ∈ steps, step.isTyped = true) → ∀ s,
        ((Session.log w c steps s).broadcasts c.config.baseUrl).length ≤
          (steps.filter SessionStep.sends).length := by
  refine ⟨fun write accepted watching s => ?_,
    fun steps typed s => Session.broadcasts_le w c typed s⟩
  have once := Write.once_of_traces accepted (Action.traces_runIn (write.run c watching) w s)
  refine ⟨once.sent_le_one, once.slept_eq_nil, fun event unset => ?_, ?_⟩
  · exact once.sent_eq_one (event.signal_runIn (write.run c watching) s) unset
  · intro request outcome e asked failed
    exact ⟨once.reported asked failed, Outcome.kind_payload_ne_timedOut failed⟩

/-- A busy node is asked once for a block, and a session of two payments sends two requests at
most. -/
theorem write_at_most_once_busy :
    let busy : Reply Float := ⟨some (.response { status := 503 }), 0.25, false⟩
    let s : Script Float := { now := 0.0, replies := [busy] }
    let r := ((Write.generateBlocks 1).run Client.onThisMachine true).runIn Script.world s
    let pay : SessionStep (Script Float) Float :=
      .command id (.write (.sendTransaction ⟨Bytes.ofText "\x7b\x7d", "drt1", none⟩)) {}
    r.sent.length ≤ 1 ∧ r.slept = [] ∧ r.sent.length = 1 ∧
      (∀ (request : Request Float) (outcome : Outcome) (e : ApiError Float),
        (request, some outcome) ∈ r.sent → outcome.payload = .error e →
        r.result = .error (.api (e.counting 1)) ∧ e.kind ≠ .timedOut) ∧
      ((Session.log Script.world .onThisMachine [pay, pay] s).broadcasts
        Client.onThisMachine.config.baseUrl).length ≤ 2 := by
  intro busy s r pay
  obtain ⟨once, sleepless, asked, reported⟩ :=
    (write_at_most_once Script.world Client.onThisMachine).1 (.generateBlocks 1)
      ⟨rfl, Int.le_refl 1, by decide +kernel⟩ true s
  have session := (write_at_most_once Script.world Client.onThisMachine).2 [pay, pay]
    (List.forall_mem_cons.mpr ⟨rfl, List.forall_mem_singleton.mpr rfl⟩) s
  exact ⟨once, sleepless, asked Script.cancelEvent fun _ => rfl, reported, session⟩
end GatewayClient
