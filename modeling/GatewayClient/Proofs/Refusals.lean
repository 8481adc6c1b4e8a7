import GatewayClient.Proofs.Poll.Law
import GatewayClient.Proofs.Session

/-!
# When arguments are refused

An operation that does not take its arguments refuses them, and for nearly all of them that is all
it does (`Command.run_eq_of_invalid`).

**Two operations check late** (`Command.checksLate`). The fields for a new transaction are put
together from the network first, and the address is looked at afterwards. A transaction that is to
be confirmed is sent first, and the number of blocks is looked at afterwards: its refusal leaves
the caller with a transaction that was sent, and without its hash.

**No other refusal follows a request** (`Command.refusal_law`), and only the second of the two
follows a transaction.
-/

set_option autoImplicit false

namespace GatewayClient

variable {σ τ α β : Type}

/-! ## Answers that are lost -/

/-- An answer that came is one of the answers. -/
theorem Log.answers_ne_nil {request : Request τ} {outcome : Outcome} {log : Log τ}
    (mem : (request, some outcome) ∈ log.sent) : log.answers ≠ [] :=
  List.ne_nil_of_mem (List.mem_filterMap.mpr ⟨_, mem, rfl⟩)

/-- A request that sends transactions is counted. -/
theorem Log.length_broadcasts_pos {baseUrl : String} {request : Request τ}
    {answer : Option Outcome} {log : Log τ} (mem : (request, answer) ∈ log.sent)
    (broadcast : request.isBroadcast baseUrl = true) : 0 < (log.broadcasts baseUrl).length :=
  List.length_pos_of_mem (List.mem_filter.mpr ⟨List.mem_map.mpr ⟨_, mem, rfl⟩, broadcast⟩)

/-- The request that sends a transaction is one. -/
theorem Catalog.isBroadcast_sendTransaction {c : Catalog} {route : Route}
    (resolves : c.route .sendTransaction [] [] = .ok route) (baseUrl : String)
    (body : Option Bytes) (timeout : τ) :
    Request.isBroadcast baseUrl ⟨route.method, route.url baseUrl, body, timeout⟩ = true := by
  have path : Template.path ⟨.post, [.fixed "transaction", .fixed "send"]⟩ [] =
      "/transaction/send" := by
    decide +kernel
  rw [eq_of_route_eq_ok resolves]
  simp [Request.isBroadcast, Route.url, path, broadcastPaths, template]

/-! ## Checks that come first -/

namespace Client

/-- What begins with the check of an argument refuses an empty one. -/
theorem refuses_empty {name value : String} (empty : value = "") (f : Unit → Action τ α) :
    ∃ fault, require name value >>= f = Action.refuse fault := by
  rw [require_of_empty empty]
  exact ⟨.empty name, rfl⟩

/-- What begins with the checks of two arguments refuses where either is empty. -/
theorem refuses_either {first second a b : String} (invalid : ¬ (a ≠ "" ∧ b ≠ ""))
    (f : Unit → Action τ α) :
    ∃ fault, (do require first a; require second b >>= f) = Action.refuse fault := by
  by_cases empty : a = ""
  · exact refuses_empty empty _
  · rw [require_of_filled (Text.filled_coe empty)]
    exact refuses_empty (Decidable.not_not.mp fun filled => invalid ⟨empty, filled⟩) f

end Client

variable [TimeScale τ]

/-- A call that yields a payload got an answer to its request. -/
theorem Call.Rounds.answered_of_ok {c : Call τ} {started : τ} {made : Nat} {log : Log τ}
    {r : Except (Failure τ) Json.Fields} (h : c.Rounds started made log r) {data : Json.Fields}
    (ok : r = .ok data) : ∃ outcome, (c.request, some outcome) ∈ log.sent := by
  induction h with
  | stopped _ | abandoned _ | refused _ _ | gaveUp _ _ | overflowed _ _ _ | interrupted _ _ _ =>
    cases ok
  | @answered _ outcome _ _ =>
    refine ⟨outcome, ?_⟩
    rw [asked, Log.sent_append]
    exact List.mem_append_right _ (.head _)
  | again _ _ _ _ ih =>
    obtain ⟨outcome, mem⟩ := ih ok
    refine ⟨outcome, ?_⟩
    simp only [Log.sent_append, Log.sent_cons]
    exact List.mem_append_right _ (List.mem_append_right _ (List.mem_append_right _ mem))

/-- So did an operation that begins with the call and has a result. -/
theorem Client.answered_of_call {c : Client τ} {op : Operation} {values : PathValues}
    {query : Query} {body : Option Bytes} {idempotent : Bool} {o : CallOptions τ}
    {f : Json.Fields → Action τ α} {log : Log τ} {a : α}
    (h : (c.call op values query body idempotent o >>= f).Traces log (.ok a)) :
    ∃ route, c.config.catalog.route op values query = .ok route ∧
      ∃ outcome, ((c.callFor op route body idempotent o).request, some outcome) ∈ log.sent := by
  rcases Action.traces_bind h with ⟨_, same, -⟩ | ⟨first, data, rest, rfl, asked, -⟩
  · cases same
  · cases resolves : c.config.catalog.route op values query with
    | error fault =>
      rw [call, resolves] at asked
      obtain ⟨-, eq⟩ := Action.traces_fail asked
      cases eq
    | ok route =>
      rw [call_eq_run resolves] at asked
      obtain ⟨started, rounds, rfl, went⟩ := Call.rounds_of_traces_run asked
      obtain ⟨outcome, mem⟩ := went.answered_of_ok rfl
      refine ⟨route, rfl, outcome, ?_⟩
      rw [Log.sent_append]
      exact List.mem_append_left _ mem

/-- A refusal that comes after an action which takes its arguments follows a result of it. -/
theorem Action.traces_refused {x : Action τ β} {f : β → Action τ α} {log : Log τ}
    {fault : ArgumentFault} {p : RetryPolicy τ} {P : Event τ → Prop} {R : β → Prop}
    (h : (x >>= f).Traces log (.error (.argument fault)))
    (takes : x.Ensures P (Failure.Expected True p) R)
    (refuses : ∀ b, ∃ fault, f b = refuse fault) : ∃ b, x.Traces log (.ok b) := by
  rcases traces_bind h with ⟨failure, same, cut⟩ | ⟨first, b, rest, rfl, went, refused⟩
  · cases same
    exact absurd trivial (takes cut).2
  · obtain ⟨fault, eq⟩ := refuses b
    rw [eq] at refused
    obtain ⟨rfl, -⟩ := traces_refuse refused
    exact ⟨b, (List.append_nil first).symm ▸ went⟩

/-- What begins with the reading of an account refuses an empty address. -/
theorem Client.refuses_account (c : Client τ) (o : CallOptions τ) {address : String}
    (empty : address = "") (f : AccountInfo → Action τ α) :
    ∃ fault, c.getAccount address o >>= f = Action.refuse fault := by
  rw [getAccount, require_of_empty empty]
  exact ⟨.empty "address", rfl⟩

/-- A read whose path takes a whole number refuses one with too many digits. -/
theorem Client.read_of_tooManyDigits (c : Client τ) (o : CallOptions τ) {op : Operation}
    {name : String} {n : Int} (slot : (template c.config.catalog.version op).slots = [name])
    (available : op.simulatorOnly = true → c.config.simulator = true)
    (long : Decimal.isWritable n = false) :
    c.read op [(name, .int n)] o = Action.refuse .tooManyDigits :=
  c.call_of_unwritable slot available (PathValue.asText_of_tooManyDigits long) rfl [] none true o

/-! ## Reads -/

namespace Read

/-- The read looks at an argument after it has asked for something else. -/
def checksLate : Read α → Bool
  | transactionArguments _ network => network.isNone
  | _ => false

/-- A read that does not take its arguments refuses them, and does nothing else, unless it checks
late. -/
theorem run_eq_of_invalid {c : Client τ} (o : CallOptions τ) {r : Read α} (invalid : ¬ r.Valid c)
    (early : r.checksLate = false) : ∃ fault, r.run c o = Action.refuse fault := by
  have blank : ∀ {text : String}, ¬ text ≠ "" → text = "" := Decidable.not_not.mp
  cases r with
  | networkConfig | networkEconomics | transactionCost _ | latestHyperBlockNonce =>
    exact absurd trivial invalid
  | networkStatus shard =>
    have long : Decimal.isWritable shard = false := Bool.eq_false_iff.mpr invalid
    refine ⟨.tooManyDigits, ?_⟩
    show c.getNetworkStatus shard o = _
    rw [Client.getNetworkStatus, c.read_of_tooManyDigits o rfl (by nofun) long]
    rfl
  | account address | accountTokens address | transaction address _ | transactionStatus address
  | token address | hyperBlockByHash address => exact Client.refuses_empty (blank invalid) _
  | accountStorageKey address key => exact Client.refuses_either invalid _
  | vmQuery query => exact Client.refuses_either invalid _
  | transactionArguments address network =>
    cases network with
    | none => cases early
    | some network => exact c.refuses_account o (blank invalid) _
  | hyperBlockByNonce nonce =>
    show ∃ fault, c.getHyperBlockByNonce nonce o = _
    unfold Client.getHyperBlockByNonce
    split
    next => exact ⟨.below "nonce" 0 nonce, rfl⟩
    next natural =>
      have long : Decimal.isWritable nonce = false := Bool.eq_false_iff.mpr fun short =>
        invalid ⟨Int.not_lt.mp natural, short⟩
      refine ⟨.tooManyDigits, ?_⟩
      rw [c.read_of_tooManyDigits o rfl (by nofun) long]
      rfl
  | initialWallets => exact Client.onSimulator_refuses fun isSimulator => absurd isSimulator invalid

end Read

/-! ## Commands -/

namespace Command

/-- The command looks at an argument after it has asked for something else. -/
def checksLate (c : Client τ) : Command τ α → Bool
  | read r => r.checksLate
  | sendAndConfirm .. => c.config.simulator
  | _ => false

/-- A command that does not take its arguments refuses them, and does nothing else, unless it checks
late. -/
theorem run_eq_of_invalid {c : Client τ} (o : CallOptions τ) {command : Command τ α}
    (typed : command.isTyped = true) (invalid : ¬ command.Valid c)
    (early : command.checksLate c = false) :
    ∃ fault, command.run c o = Action.refuse fault := by
  cases command with
  | read r => exact r.run_eq_of_invalid o invalid early
  | write w => exact Write.run_eq_of_not_accepted invalid
  | call => cases typed
  | sendAndConfirm request blocks withResults =>
    have real : ¬ c.config.simulator = true := Bool.eq_false_iff.mp early
    exact Client.onSimulator_refuses fun isSimulator => absurd isSimulator real
  | poll hash withResults => exact Client.refuses_empty (Decidable.not_not.mp invalid) _
  | pause delay => exact absurd trivial invalid

/-- What a refusal that comes late leaves behind: answers that are lost, and one transaction that
was sent if the command sends any. -/
theorem late_of_traces {c : Client τ} {o : CallOptions τ} {command : Command τ α}
    (late : command.checksLate c = true) (invalid : ¬ command.Valid c) {log : Log τ}
    {fault : ArgumentFault} (h : (command.run c o).Traces log (.error (.argument fault))) :
    log.answers ≠ [] ∧ (log.broadcasts c.config.baseUrl).length = command.sends.toNat := by
  cases command with
  | write | call | poll | pause => cases late
  | read r =>
    have spares : ∀ e ∈ log, e.Spares c.config.baseUrl :=
      fun e mem => ((r.behaves c o h).1 e mem).spares
    refine ⟨?_, congrArg List.length (Log.broadcasts_eq_nil spares)⟩
    cases r with
    | transactionArguments address network =>
      cases network with
      | some network => cases late
      | none =>
        obtain ⟨network, went⟩ := Action.traces_refused h (c.behaves_getNetworkConfig o True)
          fun network => c.refuses_account o (Decidable.not_not.mp invalid) _
        obtain ⟨_, -, outcome, mem⟩ := Client.answered_of_call went
        exact Log.answers_ne_nil mem
    | _ => cases late
  | sendAndConfirm request blocks withResults =>
    have isSimulator : c.config.simulator = true := late
    obtain ⟨fault, refuses⟩ : ∃ fault, (Write.generateBlocks blocks).run c o.watching =
        Action.refuse fault := Write.run_eq_of_not_accepted invalid
    have refuses : Simulator.generateBlocks ⟨c, isSimulator⟩ blocks o.watching =
        Action.refuse fault := (Client.onSimulator_eq isSimulator).symm.trans refuses
    have takes := (Write.sendTransaction request).ensures_run c o.watching (P := fun _ => True)
      (fun _ _ => trivial) fun _ _ _ => trivial
    have h : (c.onSimulator _).Traces log _ := h
    rw [Client.onSimulator_eq isSimulator, Simulator.sendAndConfirm_eq] at h
    obtain ⟨hash, sent⟩ := Action.traces_refused h takes fun hash => ⟨fault, by
      rw [Simulator.confirm, refuses]
      rfl⟩
    obtain ⟨route, resolves, outcome, mem⟩ := Client.answered_of_call sent
    -- The refusal came after an answer to the sending, which was made once.
    have broadcast := Catalog.isBroadcast_sendTransaction resolves c.config.baseUrl
      (some request.payload) c.config.timeout
    have some := Log.length_broadcasts_pos mem broadcast
    have most := Nat.le_trans (log.length_broadcasts_le c.config.baseUrl)
      (write_sent_le_one (.sendTransaction request) sent)
    exact ⟨Log.answers_ne_nil mem, Nat.le_antisymm most some⟩

/-- A call by name refuses what cannot be written before it asks for anything. What else it lacks is
an error of the gateway. -/
theorem quiet_of_refused {c : Client τ} {o : CallOptions τ} {name : String} {values : PathValues}
    {query : Query} {body : Option Bytes} {idempotent : Bool} {log : Log τ} {fault : ArgumentFault}
    (h : (c.callNamed name values query body idempotent o).Traces log (.error (.argument fault))) :
    log = [] := by
  unfold Client.callNamed at h
  split at h
  next op _ =>
    cases resolves : c.config.catalog.route op values query with
    | error fault =>
      rw [Client.call, resolves] at h
      exact (Action.traces_fail h).1
    | ok route =>
      have writable : True → ∀ slot ∈ (template c.config.apiVersion op).slots,
          (values.get slot).isWritable = true := fun _ slot mem =>
        (PathValue.fills_iff.mp ((Catalog.route_eq_ok_iff.mp resolves).2.1 slot mem)).2
      have calls : (c.call op values query body idempotent o).Ensures (fun _ => True) _ _ :=
        c.ensures_call (fun _ _ => trivial) values query body idempotent o writable
          fun _ _ _ => trivial
      exact absurd trivial (calls h).2
  next => exact (Action.traces_fail h).1

/-- A command refuses its arguments only where it does not take them. Most commands do so before
anything else, and leave the world as it is. The two that check late do so after an answer, and
the one of them that sends a transaction has sent it by then. -/
theorem refusal_law (w : World σ τ) (c : Client τ) (o : CallOptions τ) (command : Command τ α)
    (s : σ) :
    let r := (command.run c o).runIn w s
    (∀ fault, r.result = .error (.argument fault) →
      ¬ command.Valid c ∧ (r.events.acts = [] ↔ command.checksLate c = false) ∧
        (r.events.broadcasts c.config.baseUrl).length =
          (command.checksLate c && command.sends).toNat) ∧
    (command.isTyped = true → ¬ command.Valid c → command.checksLate c = false →
      ∃ fault, r.result = .error (.argument fault) ∧ r.events = [] ∧ r.state = s) := by
  intro r
  have traces : (command.run c o).Traces r.events r.result := Action.traces_runIn _ w s
  have early : command.isTyped = true → ¬ command.Valid c → command.checksLate c = false →
      ∃ fault, r.result = .error (.argument fault) ∧ r.events = [] ∧ r.state = s := by
    intro typed invalid early
    obtain ⟨fault, eq⟩ := command.run_eq_of_invalid o typed invalid early
    refine ⟨fault, ?_⟩
    show ((command.run c o).runIn w s).result = _ ∧ ((command.run c o).runIn w s).events = _ ∧
      ((command.run c o).runIn w s).state = _
    rw [eq]
    exact ⟨rfl, rfl, rfl⟩
  refine ⟨fun fault refused => ?_, early⟩
  rw [refused] at traces
  -- A refusal is expected only of arguments that are not valid.
  have invalid : ¬ command.Valid c := (command.ensures c o traces).2.1.elim id nofun
  refine ⟨invalid, ?_⟩
  cases late : command.checksLate c with
  | false =>
    have untouched : r.events = [] := by
      cases typed : command.isTyped with
      | true =>
        obtain ⟨-, -, untouched, -⟩ := early typed invalid late
        exact untouched
      | false =>
        cases command with
        | read | write | sendAndConfirm | poll | pause => cases typed
        | call name values query body idempotent => exact quiet_of_refused traces
    rw [untouched]
    exact ⟨⟨fun _ => rfl, fun _ => rfl⟩, rfl⟩
  | true =>
    obtain ⟨answered, sent⟩ := late_of_traces late invalid traces
    refine ⟨⟨fun none => absurd ?_ answered, nofun⟩, ?_⟩
    · rw [← Log.answers_acts, none]
      rfl
    · rw [Bool.true_and]
      exact sent

end Command

/-! ## A refusal that comes too late -/

section Hasty

/-- The fault that an operation was refused for. -/
def refusal? : Except (Failure τ) α → Option ArgumentFault
  | .error (.argument fault) => some fault
  | _ => none

omit [TimeScale τ] in
/-- Only a refusal has a fault. -/
theorem eq_of_refusal? {r : Except (Failure τ) α} {fault : ArgumentFault}
    (refused : refusal? r = some fault) : r = .error (.argument fault) := by
  unfold refusal? at refused
  split at refused
  next => rw [Option.some_inj.mp refused]
  next => cases refused

/-- A transaction that is to be confirmed by no blocks at all. -/
def hastyConfirm : Command Float TransactionOnNetwork :=
  .sendAndConfirm ⟨Bytes.ofText "\x7b\x7d", "drt1", none⟩ 0 false

/-- It is asked for from a simulator that takes every transaction. -/
def hastyRun : Run (Script Float) Float (Except (Failure Float) TransactionOnNetwork) :=
  (hastyConfirm.run .onThisMachine {}).runIn Script.world
    { now := 0.0
      replies := [
        { answer := some (.response
            { status := 200
              content := Bytes.ofText ("\x7b\"data\":\x7b\"txHash\":\"ab\"\x7d,\"error\":\"\","
                ++ "\"code\":\"successful\"\x7d") })
          advance := 0.0 }] }

/-- The count is refused as being below one. -/
theorem result_hastyRun : hastyRun.result = .error (.argument (.below "count" 1 0)) :=
  eq_of_refusal? (by decide +kernel)

/-- The number of blocks is refused, and the transaction is on its way all the same. -/
theorem Command.refusal_after_broadcast :
    hastyRun.result = .error (.argument (.below "count" 1 0)) ∧
      hastyRun.events.acts.length = 1 ∧
      (hastyRun.events.broadcasts Client.onThisMachine.config.baseUrl).length = 1 :=
  ⟨result_hastyRun, by decide +kernel, by decide +kernel⟩

/-- The refusal comes late because its command checks late; an account without an address is refused
at once. -/
theorem Command.refusal_law_hasty :
    let account : Command Float AccountInfo := .read (.account "")
    let r := (account.run .onThisMachine {}).runIn Script.world { now := 0.0 }
    hastyRun.result = .error (.argument (.below "count" 1 0)) ∧
      ¬ hastyConfirm.Valid .onThisMachine ∧ hastyRun.events.acts ≠ [] ∧
      (hastyRun.events.broadcasts Client.onThisMachine.config.baseUrl).length = 1 ∧
      account.isTyped = true ∧ ¬ account.Valid .onThisMachine ∧
      account.checksLate .onThisMachine = false ∧
      ∃ fault, r.result = .error (.argument fault) ∧ r.events = [] ∧ r.state = { now := 0.0 } := by
  intro account r
  have invalid : ¬ account.Valid .onThisMachine := fun filled => filled rfl
  have law := Command.refusal_law Script.world .onThisMachine {} hastyConfirm
  obtain ⟨refuses, -⟩ := law { now := 0.0, replies := _ }
  obtain ⟨taken, late, sent⟩ := refuses _ result_hastyRun
  have early := (Command.refusal_law Script.world .onThisMachine {} account { now := 0.0 }).2
  have follows : hastyRun.events.acts ≠ [] := fun none => Bool.noConfusion (late.mp none)
  exact ⟨result_hastyRun, taken, follows, sent, rfl, invalid, rfl, early rfl invalid rfl⟩

end Hasty
end GatewayClient
