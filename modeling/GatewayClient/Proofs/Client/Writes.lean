import GatewayClient.Command
import GatewayClient.Proofs.Client.Requests

/-!
# Writes are made once

A write that accepts its arguments is one call that may not be repeated, and then a reading of the
answer (`Write.run_eq_of_accepted`). A write that refuses them does nothing at all
(`Write.run_eq_of_not_accepted`).

**One request, no sleep** (`Write.once_of_traces`): whatever the policy of the client, the answer
and the moment of a cancellation. A request that fails is reported as it failed.
-/

set_option autoImplicit false

namespace GatewayClient

variable {τ α : Type} [TimeScale τ]

/-! ## Calls that may not be repeated -/

/-- A call that may not be repeated is not. -/
theorem Call.Retries.not_of_once {c : Call τ} (once : c.idempotent = false) {outcome : Outcome}
    {e : ApiError τ} : ¬ c.Retries outcome e :=
  fun retries => Bool.false_ne_true (once.symm.trans retries.idempotent)

/-- The rounds of a call that may not be repeated: it is stopped before its request, or makes it and
reports what became of it. -/
theorem Call.Rounds.once {c : Call τ} {started : τ} {made : Nat} {log : Log τ}
    {r : Except (Failure τ) Json.Fields} (h : c.Rounds started made log r)
    (once : c.idempotent = false) :
    c.watching = true ∧ log = [.cancelled true] ∨
      ∃ answer, log = Action.lookLog c.watching false ++ [.sent c.request answer] ∧
        ∀ outcome, answer = some outcome → ∀ e : ApiError τ, outcome.payload = .error e →
          r = .error (.api (e.counting (made + 1))) := by
  cases h with
  | stopped watched => exact .inl ⟨watched, rfl⟩
  | abandoned watched =>
    rw [watched]
    exact .inr ⟨none, rfl, nofun⟩
  | @answered _ outcome data payload =>
    refine .inr ⟨some outcome, rfl, fun _ same e failed => ?_⟩
    cases same
    rw [payload] at failed
    cases failed
  | @refused _ outcome failure failed final =>
    refine .inr ⟨some outcome, rfl, fun _ same e other => ?_⟩
    cases same
    rw [failed] at other
    cases other
    rfl
  | gaveUp retries _ | overflowed retries _ _ | interrupted retries _ _ | again retries _ _ _ =>
    exact absurd retries (Retries.not_of_once once)

/-! ## Simulators -/

namespace Client

/-- An action on the simulator of a client that has one. -/
theorem onSimulator_eq {c : Client τ} {act : Simulator τ → Action τ α}
    (isSimulator : c.config.simulator = true) :
    c.onSimulator act = act ⟨c, isSimulator⟩ := by
  rw [onSimulator, Simulator.ofClient, dif_pos isSimulator]

/-- An action that a simulator refuses is refused by every client: one of a real network refuses
all of them. -/
theorem onSimulator_refuses {c : Client τ} {act : Simulator τ → Action τ α}
    (refuses : ∀ isSimulator, ∃ fault, act ⟨c, isSimulator⟩ = Action.refuse fault) :
    ∃ fault, c.onSimulator act = Action.refuse fault := by
  by_cases isSimulator : c.config.simulator = true
  · rw [onSimulator_eq isSimulator]
    exact refuses isSimulator
  · refine ⟨.realNetwork c.config.baseUrl, ?_⟩
    rw [onSimulator, Simulator.ofClient, dif_neg isSimulator]

end Client

/-! ## What a write is -/

namespace Write

/-- The operation that a write calls. -/
def operation : Write α → Operation
  | sendTransaction _ => .sendTransaction
  | sendTransactions _ => .sendTransactions
  | generateBlocks _ => .simulatorGenerateBlocks
  | generateBlocksUntilTransactionProcessed _ => .simulatorGenerateUntilTx
  | generateBlocksUntilEpochReached _ => .simulatorGenerateUntilEpoch
  | setState _ => .simulatorSetState

/-- The values for the path of the call. -/
def values : Write α → PathValues
  | generateBlocks count => [("count", .int count)]
  | generateBlocksUntilTransactionProcessed hash => [("hash", .text hash)]
  | generateBlocksUntilEpochReached epoch => [("epoch", .int epoch)]
  | sendTransaction _ | sendTransactions _ | setState _ => []

/-- The body of the call. -/
def body : Write α → Option Bytes
  | sendTransaction request => some request.payload
  | sendTransactions requests => some (TransactionRequest.batch requests)
  | setState accounts => some (Bytes.ofText (Json.arr (accounts.map .obj)).compact)
  | generateBlocks _ | generateBlocksUntilTransactionProcessed _
  | generateBlocksUntilEpochReached _ => none

/-- What the write does with the answer. -/
def finish : Write α → Json.Fields → Action τ α
  | sendTransaction _, data => do
    Client.validate Schema.transactionHash "send transaction" (.obj data)
    Action.expect "send transaction" (data.text? "txHash")
  | sendTransactions requests, data => do
    Client.validate Schema.transactionHashes "send transactions" (.obj data)
    let receipt ← Action.expect "send transactions" (BatchReceipt.decode? data requests.length)
    if !receipt.isConsistent then
      Action.warn (.hashCount receipt.reported receipt.returned)
    return receipt.hashes
  | generateBlocks _, _ | generateBlocksUntilTransactionProcessed _, _
  | generateBlocksUntilEpochReached _, _ | setState _, _ => pure ()

/-- The arguments are ones that the write takes, of a client that has it. -/
def Accepted (c : Client τ) : Write α → Prop
  | sendTransaction _ => True
  | sendTransactions requests => requests ≠ []
  | generateBlocks count =>
    c.config.simulator = true ∧ 1 ≤ count ∧ Decimal.isWritable count = true
  | generateBlocksUntilTransactionProcessed hash => c.config.simulator = true ∧ hash ≠ ""
  | generateBlocksUntilEpochReached epoch =>
    c.config.simulator = true ∧ 0 ≤ epoch ∧ Decimal.isWritable epoch = true
  | setState accounts => c.config.simulator = true ∧ accounts ≠ [] ∧
    (Json.arr (accounts.map .obj)).isWritable = true

/-- What is known of the result of a write: the hash of a transaction that was sent is not empty. -/
def Answers : Write α → α → Prop
  | sendTransaction _, hash => hash ≠ ""
  | _, _ => True

variable {c : Client τ} {write : Write α} {watching : Bool}

/-- The call of a write that accepts its arguments has a route. -/
theorem route_of_accepted (accepted : write.Accepted c) :
    ∃ route, c.config.catalog.route write.operation write.values [] = .ok route := by
  refine Catalog.exists_route [] ?_ ?_
  · intro simulatorOnly
    cases write with
    | sendTransaction _ | sendTransactions _ => cases simulatorOnly
    | generateBlocks _ | generateBlocksUntilTransactionProcessed _
    | generateBlocksUntilEpochReached _ | setState _ => exact accepted.1
  · intro name slot
    cases write with
    | sendTransaction _ | sendTransactions _ | setState _ => cases slot
    | generateBlocks count | generateBlocksUntilEpochReached epoch =>
      cases List.mem_singleton.mp slot
      exact PathValue.fills_int accepted.2.2
    | generateBlocksUntilTransactionProcessed hash =>
      cases List.mem_singleton.mp slot
      exact PathValue.fills_string accepted.2

/-- A write that accepts its arguments makes its call, and reads the answer. -/
theorem run_eq_of_accepted (accepted : write.Accepted c) :
    write.run c watching =
      c.perform write.operation write.values write.body watching >>= write.finish := by
  cases write with
  | sendTransaction request => rfl
  | sendTransactions requests =>
    have filled : ¬ requests.isEmpty = true := mt List.isEmpty_iff.mp accepted
    show c.sendTransactions requests watching = _
    rw [Client.sendTransactions, if_neg filled]
    rfl
  | generateBlocks count =>
    have positive : ¬ count < 1 := Int.not_lt.mpr accepted.2.1
    show c.onSimulator _ = _
    rw [Client.onSimulator_eq accepted.1, Simulator.generateBlocks, if_neg positive]
    rfl
  | generateBlocksUntilTransactionProcessed hash =>
    show c.onSimulator _ = _
    rw [Client.onSimulator_eq accepted.1, Simulator.generateBlocksUntilTransactionProcessed,
      Client.require_of_filled (Text.filled_coe accepted.2)]
    rfl
  | generateBlocksUntilEpochReached epoch =>
    have natural : ¬ epoch < 0 := Int.not_lt.mpr accepted.2.1
    show c.onSimulator _ = _
    rw [Client.onSimulator_eq accepted.1, Simulator.generateBlocksUntilEpochReached, if_neg natural]
    rfl
  | setState accounts =>
    have filled : ¬ accounts.isEmpty = true := mt List.isEmpty_iff.mp accepted.2.1
    show c.onSimulator _ = _
    rw [Client.onSimulator_eq accepted.1, Simulator.setState, if_neg filled, Json.compact?,
      if_pos accepted.2.2]
    rfl

/-- A write that accepts its arguments is the call of its operation, and what it does with the
answer. -/
theorem run_eq_call (write : Write α) (c : Client τ) (watching : Bool)
    (accepted : write.Accepted c) : write.run c watching =
    (c.callFor write.operation ⟨(template c.config.catalog.version write.operation).method,
      (template c.config.catalog.version write.operation).path write.values, []⟩
      write.body false { watching }).run >>= write.finish := by
  obtain ⟨route, resolves⟩ := route_of_accepted accepted
  have calls := Client.call_eq_run resolves write.body false { watching }
  cases Catalog.eq_of_route_eq_ok resolves
  rw [run_eq_of_accepted accepted, Client.perform, calls]

/-- The call may not be repeated. -/
theorem exists_call (accepted : write.Accepted c) (watching : Bool) :
    ∃ call : Call τ, call.idempotent = false ∧
      write.run c watching = call.run >>= write.finish ∧ call.watching = watching :=
  ⟨_, rfl, run_eq_call write c watching accepted, rfl⟩

/-- A call whose path takes a whole number refuses one with too many digits. -/
theorem perform_of_tooManyDigits {op : Operation} {name : String} {n : Int}
    (slot : (template c.config.catalog.version op).slots = [name])
    (available : op.simulatorOnly = true → c.config.simulator = true)
    (long : Decimal.isWritable n = false) : (do
      let _ ← c.perform op [(name, .int n)] none watching
      pure ()) = (Action.refuse .tooManyDigits : Action τ Unit) := by
  rw [Client.perform, Client.call_of_unwritable c slot available
    (PathValue.asText_of_tooManyDigits long) rfl]
  rfl

/-- A write that does not accept its arguments refuses them, and does nothing else. -/
theorem run_eq_of_not_accepted (refused : ¬ write.Accepted c) :
    ∃ fault, write.run c watching = Action.refuse fault := by
  cases write with
  | sendTransaction request => exact absurd trivial refused
  | sendTransactions requests =>
    have empty : requests.isEmpty = true := List.isEmpty_iff.mpr (Decidable.not_not.mp refused)
    refine ⟨.empty "requests", ?_⟩
    show c.sendTransactions requests watching = _
    rw [Client.sendTransactions, if_pos empty]
  | generateBlocks count =>
    refine Client.onSimulator_refuses fun isSimulator => ?_
    rw [Simulator.generateBlocks]
    split
    next => exact ⟨.below "count" 1 count, rfl⟩
    next positive =>
      have long : Decimal.isWritable count = false := Bool.eq_false_iff.mpr fun short =>
        refused ⟨isSimulator, Int.not_lt.mp positive, short⟩
      exact ⟨.tooManyDigits, perform_of_tooManyDigits rfl (fun _ => isSimulator) long⟩
  | generateBlocksUntilTransactionProcessed hash =>
    refine Client.onSimulator_refuses fun isSimulator => ⟨.empty "tx_hash", ?_⟩
    have empty : hash = "" :=
      Decidable.not_not.mp fun filled => refused ⟨isSimulator, filled⟩
    rw [Simulator.generateBlocksUntilTransactionProcessed, Client.require_of_empty empty]
    rfl
  | generateBlocksUntilEpochReached epoch =>
    refine Client.onSimulator_refuses fun isSimulator => ?_
    rw [Simulator.generateBlocksUntilEpochReached]
    split
    next => exact ⟨.below "epoch" 0 epoch, rfl⟩
    next natural =>
      have long : Decimal.isWritable epoch = false := Bool.eq_false_iff.mpr fun short =>
        refused ⟨isSimulator, Int.not_lt.mp natural, short⟩
      exact ⟨.tooManyDigits, perform_of_tooManyDigits rfl (fun _ => isSimulator) long⟩
  | setState accounts =>
    refine Client.onSimulator_refuses fun isSimulator => ?_
    rw [Simulator.setState]
    split
    next => exact ⟨.empty "accounts", rfl⟩
    next filled =>
      have long : ¬ (Json.arr (accounts.map .obj)).isWritable = true := fun short =>
        refused ⟨isSimulator, mt List.isEmpty_iff.mpr filled, short⟩
      rw [Json.compact?, if_neg long]
      exact ⟨.tooManyDigits, rfl⟩

/-! ## Its answer -/

/-- Reading the answer of a write does no more than warn, and does not fail for what it reads. -/
theorem ensures_finish {P : Event τ → Prop} (warns : ∀ warning, P (.warned warning))
    (write : Write α) (data : Json.Fields) (valid : Prop) :
    (write.finish data).Ensures P (Failure.Expected valid .single) write.Answers := by
  cases write with
  | sendTransaction request =>
    refine (Client.ensures_validate _ _ _ fun _ => trivial).bind fun _ fits => ?_
    exact .expect fits.sentHash
  | sendTransactions requests =>
    refine (Client.ensures_validate _ _ _ fun _ => trivial).bind fun _ fits => ?_
    obtain ⟨receipt, read⟩ := BatchReceipt.decode?_of_fits fits requests.length
    refine (Action.Ensures.expect (R := fun _ => True) ⟨receipt, read, trivial⟩).bind
      fun receipt _ => ?_
    split
    · exact (Action.Ensures.warn (warns _)).bind fun _ _ => .pure trivial
    · exact .pure trivial
  | generateBlocks _ | generateBlocksUntilTransactionProcessed _
  | generateBlocksUntilEpochReached _ | setState _ => exact .pure trivial

/-! ## Its only request -/

/-- How a write that accepts its arguments can go: it is stopped before its request, or makes it and
reports what became of it. Nothing that can be noticed follows. -/
inductive Once (watching : Bool) : Log τ → Except (Failure τ) α → Prop
  | stopped {started : τ} {rest : Log τ} {r : Except (Failure τ) α} (watched : watching = true)
      (quiet : rest.acts = []) : Once watching (.clock started :: .cancelled true :: rest) r
  | made {started : τ} {request : Request τ} {answer : Option Outcome} {rest : Log τ}
      {r : Except (Failure τ) α} (quiet : rest.acts = [])
      (reported : ∀ outcome, answer = some outcome → ∀ e : ApiError τ,
        outcome.payload = .error e → r = .error (.api (e.counting 1))) :
      Once watching
        (.clock started :: (Action.lookLog watching false ++ .sent request answer :: rest)) r

/-- Every trace of a write that accepts its arguments makes its request at most once. -/
theorem once_of_traces (accepted : write.Accepted c) {log : Log τ} {r : Except (Failure τ) α}
    (h : (write.run c watching).Traces log r) : Once watching log r := by
  obtain ⟨call, once, calls, rfl⟩ := exists_call accepted watching
  rw [calls] at h
  rcases Action.traces_bind h with ⟨failure, rfl, cut⟩ | ⟨first, data, rest, rfl, answered, read⟩
  · obtain ⟨started, log, rfl, rounds⟩ := Call.rounds_of_traces_run cut
    rcases rounds.once once with ⟨watched, rfl⟩ | ⟨answer, rfl, reported⟩
    · exact .stopped watched rfl
    · refine .made rfl fun outcome same e failed => ?_
      cases reported outcome same e failed
      rfl
  · have noticed := (ensures_finish (P := fun e => ¬ Log.isAct e = true)
      (fun _ => Bool.false_ne_true) write data True read).1
    have quiet : rest.acts = [] := List.filter_eq_nil_iff.mpr noticed
    obtain ⟨started, log, rfl, rounds⟩ := Call.rounds_of_traces_run answered
    rcases rounds.once once with ⟨watched, rfl⟩ | ⟨answer, rfl, reported⟩
    · exact .stopped watched quiet
    · rw [List.cons_append, List.append_assoc]
      refine .made quiet fun outcome same e failed => ?_
      cases reported outcome same e failed

namespace Once

variable {log : Log τ} {r : Except (Failure τ) α}

/-- A write does nothing that can be noticed, or makes a single request. -/
theorem acts_eq (h : Once watching log r) :
    log.acts = [] ∨ ∃ request answer, log.acts = [.sent request answer] := by
  cases h with
  | stopped _ quiet => exact .inl (by simp [quiet])
  | @made _ request answer _ _ quiet _ => exact .inr ⟨request, answer, by simp [quiet]⟩

/-- A write makes one request at most. -/
theorem sent_le_one (h : Once watching log r) : log.sent.length ≤ 1 := by
  rw [← Log.sent_acts]
  rcases h.acts_eq with none | ⟨request, answer, one⟩
  · rw [none]
    exact Nat.zero_le 1
  · rw [one]
    exact Nat.le_refl 1

/-- A write never sleeps. -/
theorem slept_eq_nil (h : Once watching log r) : log.slept = [] := by
  rw [← Log.slept_acts]
  rcases h.acts_eq with none | ⟨request, answer, one⟩
  · rw [none]
    rfl
  · rw [one]
    rfl

/-- A write that the event does not stop before it begins makes its request. -/
theorem sent_eq_one {before after : Bool} (h : Once watching log r)
    (signal : Log.Signal before log after) (unset : watching = true → before = false) :
    log.sent.length = 1 := by
  cases h with
  | stopped watched _ =>
    cases signal with
    | clock rest =>
      cases rest with
      | cancelled _ => cases unset watched
  | made quiet _ =>
    rw [← Log.sent_acts]
    simp [quiet]

/-- The failure of the request is the failure of the write. -/
theorem reported (h : Once watching log r) {request : Request τ} {outcome : Outcome}
    (asked : (request, some outcome) ∈ log.sent) {e : ApiError τ}
    (failed : outcome.payload = .error e) : r = .error (.api (e.counting 1)) := by
  cases h with
  | stopped _ quiet =>
    rw [← Log.sent_acts] at asked
    simp [quiet] at asked
  | made quiet reported =>
    rw [← Log.sent_acts] at asked
    simp only [Log.acts_cons, Log.acts_append, Action.acts_lookLog, quiet] at asked
    have same := List.mem_singleton.mp asked
    exact reported outcome (congrArg Prod.snd same).symm e failed

end Once

/-! ## What is asked for -/

/-- A write asks for nothing but its operation, and fails as expected. -/
theorem ensures_run (write : Write α) (c : Client τ) (watching : Bool) {P : Event τ → Prop}
    (silent : ∀ e, e.sent? = none → P e)
    (asks : ∀ route, c.config.catalog.route write.operation write.values [] = .ok route →
      ∀ answer, P (.sent (c.callFor write.operation route write.body false { watching }).request
        answer)) :
    (write.run c watching).Ensures P (Failure.Expected (write.Accepted c) .single)
      write.Answers := by
  by_cases accepted : write.Accepted c
  · rw [run_eq_of_accepted accepted]
    have writable : write.Accepted c →
        ∀ name ∈ (template c.config.apiVersion write.operation).slots,
          (write.values.get name).isWritable = true := fun accepted name mem => by
      obtain ⟨route, resolves⟩ := route_of_accepted accepted
      exact (PathValue.fills_iff.mp ((Catalog.route_eq_ok_iff.mp resolves).2.1 name mem)).2
    have calls := c.ensures_call silent write.values [] write.body false { watching } writable asks
    exact calls.bind fun data _ => ensures_finish (fun _ => silent _ rfl) write data _
  · have refused : ∃ fault, write.run c watching = Action.refuse fault :=
      run_eq_of_not_accepted accepted
    obtain ⟨fault, eq⟩ := refused
    rw [eq]
    exact .fail accepted

/-- The request of a write has the body of the write. -/
theorem body_of_sent {log : Log τ} {r : Except (Failure τ) α}
    (h : (write.run c watching).Traces log r) : ∀ call ∈ log.sent, call.1.body = write.body := by
  have asks := write.ensures_run c watching (fun _ => Event.Bears.of_silent)
    fun _ _ _ => Event.Bears.of_request
  exact asks.body_of_sent h

/-- Every write but the two that send transactions sends none. -/
theorem behaves (write : Write α) (c : Client τ) (watching : Bool)
    (other : write.operation.broadcasts = false) :
    c.Behaves .single (write.Accepted c) (write.run c watching) write.Answers := by
  refine write.ensures_run c watching (fun _ => .of_silent) fun route resolves answer => ?_
  exact ⟨write.operation, write.values, [], route, write.body, other, resolves, rfl⟩

end Write
end GatewayClient
