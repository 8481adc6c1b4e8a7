import GatewayClient.Proofs.Client.Commands
import GatewayClient.Proofs.Poll.Rounds

/-!
# When commands overflow

A policy computes the growth of a delay before it caps the delay. Where the growth is beyond the
scale, the operation fails with an overflow, whatever the cap.

**Nothing else escapes** (`Command.ensures`), and every policy that overflows lets it escape: a
world whose gateway cannot be reached leads each command under that policy to the delay that does
(`Command.overflows`).
-/

set_option autoImplicit false

namespace GatewayClient

variable {τ α β : Type}

/-! ## A gateway that cannot be reached -/

/-- The gateway was not reached. -/
def Outcome.unreached : Outcome := .failure ⟨.connection, "unreachable"⟩

/-- A step in a world whose gateway cannot be reached, whose cancel event is never set, and whose
clock says one time. -/
def Event.Bleak (now : τ) : Event τ → Prop
  | .sent _ answer => answer = some .unreached
  | .clock reading => reading = now
  | .cancelled isSet => isSet = false
  | .slept _ | .drew _ _ | .warned _ => True

section World

variable [TimeScale τ] (started now : τ)

/-- A world whose gateway cannot be reached. The first reading of its clock is one time, and all
later ones are another. -/
def World.unreachable : World Bool τ where
  send _ s := (.unreached, s)
  sendWatched _ s := (some .unreached, s)
  sleep _ s := s
  clock s := (if s then now else started, true)
  cancelled s := (false, s)
  draw _ s := (0.5, s)

/-- The event of the world is never set. -/
def World.unreachableEvent : CancelEvent (World.unreachable started now) where
  isSet _ := false
  cancelled_fst _ := rfl
  cancelled_snd _ := rfl
  clock_snd _ := rfl
  draw_snd _ _ := rfl
  send_snd _ _ set := set
  sendWatched_snd _ _ set := set
  abandoned _ _ := nofun
  sleep _ _ set := set

variable {started now}

/-- All steps of a run in that world are bleak. -/
theorem World.bleak_unreachable (p : Program τ α) :
    ∀ e ∈ (p.run (World.unreachable started now) true).events, e.Bleak now := by
  induction p with
  | done a => exact nofun
  | send _ _ ih | sendWatched _ _ ih => exact List.forall_mem_cons.mpr ⟨rfl, ih _⟩
  | sleep _ _ ih | warn _ _ ih => exact List.forall_mem_cons.mpr ⟨trivial, ih⟩
  | clock _ ih | cancelled _ ih => exact List.forall_mem_cons.mpr ⟨rfl, ih _⟩
  | draw _ _ ih => exact List.forall_mem_cons.mpr ⟨trivial, ih _⟩

/-- What begins with a reading of the clock goes on in the other time. -/
theorem World.bleak_of_clock {p : Program τ α} {reading : τ} {rest : Log τ}
    (h : (p.run (World.unreachable started now) false).events = .clock reading :: rest) :
    reading = started ∧ ∀ e ∈ rest, e.Bleak now := by
  cases p with
  | clock next =>
    obtain ⟨first, rfl⟩ := List.cons_eq_cons.mp h
    cases first
    exact ⟨rfl, bleak_unreachable _⟩
  | done _ | send _ _ | sendWatched _ _ | sleep _ _ | cancelled _ | draw _ _ | warn _ _ => cases h

end World

variable [TimeScale τ]

/-! ## Rounds that come to the overflow -/

section Rounds

variable {started now : τ} {index : Nat} {cause : Overflow}

/-- A delay that is chosen is not the one that overflows. -/
theorem RetryPolicy.ne_of_nextDelay {p : RetryPolicy τ} {elapsed : τ}
    (unspent : p.isSpent index elapsed = false)
    (grows : TimeScale.power p.multiplier index = .error cause) {made : Nat} {rateLimited : Bool}
    {chance delay : τ} (next : p.nextDelay made elapsed rateLimited chance = .ok (some delay)) :
    made ≠ index := by
  rintro rfl
  rw [nextDelay_eq_error.mpr ⟨unspent, cappedDelay_eq_error.mpr grows⟩] at next
  cases next

/-- A call that reaches nothing comes to the delay that is beyond the scale, unless another one
before it is. -/
theorem Call.Rounds.overflows {c : Call τ} {made : Nat} {log : Log τ}
    {r : Except (Failure τ) Json.Fields} (h : c.Rounds started made log r)
    (idempotent : c.idempotent = true) (unspent : c.policy.isSpent index (now - started) = false)
    (grows : TimeScale.power c.policy.multiplier index = .error cause)
    (before : made ≤ index) (bleak : ∀ e ∈ log, e.Bleak now) :
    ∃ cause, r = .error (.overflow cause) := by
  have payload : ∀ {outcome : Outcome}, (∀ e ∈ c.asked outcome, e.Bleak now) →
      outcome = .unreached := by
    intro outcome asked
    have sent := asked (.sent c.request (some outcome))
      (List.mem_append_right _ (List.mem_singleton_self _))
    exact Option.some.inj sent
  -- Every round fails for good reason but the one of the index: the clock stands still, so no
  -- attempt before it is the last.
  induction h with
  | stopped => cases bleak _ (.head _)
  | abandoned => cases bleak _ (.tail _ (.head _))
  | answered answered =>
    cases payload bleak
    cases answered
  | refused failed final =>
    cases payload bleak
    cases failed
    rw [idempotent] at final
    cases final
  | @gaveUp made _ _ read _ spent =>
    have same : read = now := bleak (.clock read) (List.mem_append_right _ (.head _))
    rw [same, RetryPolicy.isSpent_eq_false_of_le before unspent] at spent
    cases spent
  | overflowed => exact ⟨_, rfl⟩
  | interrupted _ _ paused =>
    cases bleak _ (List.mem_append_right _ (.tail _ (List.mem_append_right _ paused.cancelled_mem)))
  | @again made _ _ read _ _ _ _ _ _ next _ _ ih =>
    have same : read = now := bleak (.clock read) (List.mem_append_right _ (.head _))
    have other : made ≠ index := RetryPolicy.ne_of_nextDelay unspent grows (same ▸ next)
    apply ih (by omega)
    intro e mem
    exact bleak e (List.mem_append_right _ (.tail _ (List.mem_append_right _ mem)))

/-- A poll that reaches nothing comes to the delay that is beyond the scale, unless another one
before it is. -/
theorem Poll.Rounds.overflows {p : Poll τ} {checks : Nat} {seen : Sighting τ} {log : Log τ}
    {r : Except (Failure τ) (PollResult τ)} (h : p.Rounds started checks seen log r)
    (unspent : p.policy.isSpent index (now - started) = false)
    (grows : TimeScale.power p.policy.multiplier index = .error cause)
    (before : checks ≤ index) (bleak : ∀ e ∈ log, e.Bleak now) :
    ∃ cause, r = .error (.overflow cause) := by
  have unreached : ∀ {ask : Log τ} {answer : Option Outcome},
      ask.acts = [.sent p.call.request answer] → (∀ e ∈ ask, e.Bleak now) →
      answer = some .unreached := by
    intro ask answer asked quiet
    have sent : .sent p.call.request answer ∈ ask.acts := asked ▸ List.mem_singleton_self _
    exact quiet _ (List.mem_filter.mp sent).1
  have passes : decides (p.yield .unreached) = none := rfl
  induction h with
  | stopped => cases bleak _ (.head _)
  | abandoned asked => cases unreached asked fun e mem => bleak e (List.mem_append_left _ mem)
  | decided asked decides =>
    cases unreached asked fun e mem => bleak e (List.mem_append_left _ mem)
    rw [passes] at decides
    cases decides
  | @gaveUp checks _ _ _ read _ _ _ _ spent =>
    have same : read = now := bleak (.clock read) (List.mem_append_right _ (.head _))
    rw [same, RetryPolicy.isSpent_eq_false_of_le before unspent] at spent
    cases spent
  | overflowed => exact ⟨_, rfl⟩
  | interrupted _ _ _ paused =>
    have looked : Event.Bleak now (.cancelled true) := by
      refine bleak _ (List.mem_append_right _ (.tail _ (List.mem_append_left _ ?_)))
      exact List.mem_append_right _ paused.cancelled_mem
    cases looked
  | @again checks _ _ _ _ _ read _ _ _ _ _ next _ _ ih =>
    have same : read = now := bleak (.clock read) (List.mem_append_right _ (.head _))
    have other : checks ≠ index := RetryPolicy.ne_of_nextDelay unspent grows (same ▸ next)
    apply ih (by omega)
    intro e mem
    exact bleak e (List.mem_append_right _ (.tail _ (List.mem_append_right _ mem)))

end Rounds

namespace Action

variable (started now : τ)

/-- The action overflows in a world whose gateway cannot be reached. -/
def Overflows (x : Action τ α) : Prop :=
  ∃ cause, (x.runIn (World.unreachable started now) false).result = .error (.overflow cause)

variable {started now}

/-- What begins with an action that overflows does so. -/
theorem Overflows.bind {x : Action τ α} (h : x.Overflows started now) (f : α → Action τ β) :
    (x >>= f).Overflows started now := by
  obtain ⟨cause, failed⟩ := h
  refine ⟨cause, ?_⟩
  have chained := Program.run_andThen (World.unreachable started now) x.run
    (ExceptT.bindCont f) false
  have first : (x.run.run (World.unreachable started now) false).result =
    .error (.overflow cause) := failed
  rw [first] at chained
  exact congrArg Run.result chained

end Action

/-! ## The operations of a client -/

section Commands

variable {c : Client τ} {o : CallOptions τ} {started now : τ}

theorem Call.overflows {call : Call τ} (idempotent : call.idempotent = true)
    (overflows : call.policy.OverflowsAt (now - started)) :
    call.run.Overflows started now := by
  obtain ⟨index, cause, unspent, grows⟩ := overflows
  have traces := Action.traces_runIn call.run (World.unreachable started now) false
  obtain ⟨first, rest, logged, rounds⟩ := Call.rounds_of_traces_run traces
  obtain ⟨rfl, bleak⟩ := World.bleak_of_clock logged
  exact rounds.overflows idempotent unspent grows (Nat.zero_le index) bleak

theorem Poll.overflows {p : Poll τ} (filled : p.hash ≠ "")
    (overflows : p.policy.OverflowsAt (now - started)) : p.run.Overflows started now := by
  obtain ⟨index, cause, unspent, grows⟩ := overflows
  obtain ⟨first, rest, logged, rounds, -⟩ :=
    Poll.rounds_of_runIn (World.unreachableEvent started now) filled false
  obtain ⟨rfl, bleak⟩ := World.bleak_of_clock logged
  exact rounds.overflows unspent grows (Nat.zero_le index) bleak

namespace Client

variable (overflows : (c.policyFor o).OverflowsAt (now - started))
include overflows

/-- A call that may be repeated overflows under a policy that does. -/
theorem call_overflows {op : Operation} {values : PathValues} {query : Query} (body : Option Bytes)
    (resolves : ∃ route, c.config.catalog.route op values query = .ok route) :
    (c.call op values query body true o).Overflows started now := by
  obtain ⟨route, resolves⟩ := resolves
  rw [call_eq_run resolves]
  exact Call.overflows rfl overflows

/-- What begins with a call whose path has no slots. -/
theorem fixed_overflows (op : Operation) {body : Option Bytes}
    (fixed : (template c.config.apiVersion op).slots = [])
    (available : op.simulatorOnly = true → c.config.simulator = true)
    (f : Json.Fields → Action τ α) :
    (c.call op [] [] body true o >>= f).Overflows started now :=
  (call_overflows overflows body (Catalog.exists_route_fixed [] fixed available)).bind f

/-- What begins with a call whose path has one slot. -/
theorem slot_overflows (op : Operation) {name : String} {value : PathValue} {query : Query}
    (slot : (template c.config.apiVersion op).slots = [name]) (real : op.simulatorOnly = false)
    (filled : value.fills = true) (f : Json.Fields → Action τ α) :
    (c.call op [(name, value)] query none true o >>= f).Overflows started now :=
  (call_overflows overflows none (Catalog.exists_route_slot query slot real filled)).bind f

theorem getNetworkStatus_overflows {shard : Int} (short : Decimal.isWritable shard = true) :
    (c.getNetworkStatus shard o).Overflows started now :=
  slot_overflows overflows .networkStatus rfl rfl (PathValue.fills_int short) _

theorem getNetworkConfig_overflows : (c.getNetworkConfig o).Overflows started now :=
  fixed_overflows overflows .networkConfig rfl nofun _

omit overflows in
/-- The check of an argument that is there does not keep what follows from overflowing. -/
theorem require_overflows {name value : String} (filled : value ≠ "") {f : Unit → Action τ α}
    (rest : (f ()).Overflows started now) : (require name value >>= f).Overflows started now := by
  rw [require_of_filled (Text.filled_coe filled)]
  exact rest

theorem getAccount_overflows {address : String} (filled : address ≠ "") :
    (c.getAccount address o).Overflows started now := by
  refine require_overflows filled ?_
  exact slot_overflows overflows .account rfl rfl (PathValue.fills_string filled) _

end Client

/-- Every read that takes its arguments overflows under a policy that does. -/
theorem Read.overflows {r : Read α} (valid : r.Valid c)
    (overflows : (c.policyFor o).OverflowsAt (now - started)) :
    (r.run c o).Overflows started now := by
  cases r with
  | networkConfig => exact Client.getNetworkConfig_overflows overflows
  | networkStatus shard => exact Client.getNetworkStatus_overflows overflows valid
  | networkEconomics => exact Client.fixed_overflows overflows .networkEconomics rfl nofun _
  | account address => exact Client.getAccount_overflows overflows valid
  | accountStorageKey address key =>
    apply Client.require_overflows valid.1
    apply Client.require_overflows valid.2
    exact (Client.call_overflows overflows none (Catalog.exists_route_key valid.1 valid.2)).bind _
  | accountTokens address =>
    apply Client.require_overflows valid
    exact Client.slot_overflows overflows .accountTokens rfl rfl (PathValue.fills_string valid) _
  | transactionArguments address network =>
    cases network with
    | some network =>
      exact Action.Overflows.bind (Client.getAccount_overflows overflows valid) _
    | none => exact Action.Overflows.bind (Client.getNetworkConfig_overflows overflows) _
  | transactionCost request => exact Client.fixed_overflows overflows .transactionCost rfl nofun _
  | transaction hash withResults =>
    apply Client.require_overflows valid
    exact Client.slot_overflows overflows .transaction rfl rfl (PathValue.fills_string valid) _
  | transactionStatus hash =>
    apply Client.require_overflows valid
    exact Client.slot_overflows overflows .transactionStatus rfl rfl
      (PathValue.fills_string valid) _
  | token identifier =>
    have slot : (template c.config.apiVersion .token).slots = ["identifier"] := by
      cases c.config.apiVersion <;> rfl
    apply Client.require_overflows valid
    exact Client.slot_overflows overflows .token slot rfl (PathValue.fills_string valid) _
  | vmQuery query =>
    apply Client.require_overflows valid.1
    apply Client.require_overflows valid.2
    exact Client.fixed_overflows overflows .vmQuery rfl nofun _
  | hyperBlockByNonce nonce =>
    have natural : ¬ nonce < 0 := Int.not_lt.mpr valid.1
    show (c.getHyperBlockByNonce nonce o).Overflows started now
    rw [Client.getHyperBlockByNonce, if_neg natural]
    exact Client.slot_overflows overflows .hyperblockByNonce rfl rfl
      (PathValue.fills_int valid.2) _
  | hyperBlockByHash hash =>
    apply Client.require_overflows valid
    exact Client.slot_overflows overflows .hyperblockByHash rfl rfl
      (PathValue.fills_string valid) _
  | latestHyperBlockNonce =>
    exact Action.Overflows.bind
      (Client.getNetworkStatus_overflows overflows Client.isWritable_metachainShard) _
  | initialWallets =>
    show (c.onSimulator _).Overflows started now
    rw [Client.onSimulator_eq valid]
    exact Client.fixed_overflows overflows .simulatorInitialWallets rfl (fun _ => valid) _

/-! ## Commands -/

namespace Command

/-- Every command that takes its arguments overflows under a policy that does. -/
theorem overflows {command : Command τ α} (valid : command.Valid c)
    (overflows : (command.policyInForce c o).OverflowsAt (now - started)) :
    (command.run c o).Overflows started now := by
  have single : ¬ (RetryPolicy.single : RetryPolicy τ).OverflowsAt (now - started) :=
    fun overflows => RetryPolicy.not_overflows_single ⟨started, now, overflows⟩
  cases command with
  | read r => exact Read.overflows valid overflows
  | write | sendAndConfirm | pause => exact absurd overflows single
  | call name values query body idempotent =>
    cases idempotent with
    | false => exact absurd overflows single
    | true =>
      obtain ⟨route, resolves⟩ := valid
      obtain ⟨op, -, runs⟩ := Client.callNamed_eq_run resolves body true o
      show (c.callNamed name values query body true o).Overflows started now
      rw [runs]
      exact Call.overflows rfl overflows
  | poll hash withResults => exact Poll.overflows valid overflows

end Command

/-- A command that takes its arguments gives a result or fails with an error of the gateway, of
which a poll makes a result. The one other way out is an overflow, and it is open under the policies
that overflow and no others; beside it, what asks for something by a text of the node's can fail for
a surrogate in it. -/
theorem Command.overflows_iff (c : Client τ) (o : CallOptions τ) (command : Command τ α)
    (valid : command.Valid c) :
    (∀ {σ : Type} (w : World σ τ) (s : σ),
      let r := ((command.run c o).runIn w s).result
      (∃ a, r = .ok a) ∨ (command.isPoll = false ∧ ∃ e, r = .error (.api e)) ∨
        (∃ cause, r = .error (.overflow cause)) ∨
        command.echoes = true ∧ ∃ text : Text, text.toString? = none ∧
          r = .error (.unencodable text)) ∧
      ((∃ (σ : Type) (w : World σ τ) (s : σ) (cause : Overflow),
          ((command.run c o).runIn w s).result = .error (.overflow cause)) ↔
        (command.policyInForce c o).Overflows) := by
  refine ⟨fun w s => ?_, ?_, ?_⟩
  · have expected := ((command.ensures c o).of_runIn w s).2
    generalize ((command.run c o).runIn w s).result = r at expected
    cases r with
    | ok a => exact .inl ⟨a, rfl⟩
    | error failure =>
      obtain ⟨kind | ⟨echoes, text, unknown, rfl⟩, typed⟩ := expected
      · cases failure with
        | api e =>
          have other : command.isPoll = false :=
            Bool.eq_false_iff.mpr fun polls => typed polls e rfl
          exact .inr (.inl ⟨other, e, rfl⟩)
        | argument fault => exact absurd valid kind
        | overflow cause => exact .inr (.inr (.inl ⟨cause, rfl⟩))
        | unencodable text => exact absurd valid kind
        | undecodable what => exact kind.elim
      · exact .inr (.inr (.inr ⟨echoes, text, unknown, rfl⟩))
  · rintro ⟨σ, w, s, cause, failed⟩
    have expected := ((command.ensures c o).of_runIn w s).2
    rw [failed] at expected
    rcases expected.1 with overflows | ⟨-, text, -, other⟩
    · exact overflows
    · cases other
  -- The other direction: with a gateway that is never reached, every delay up to that one is
  -- computed.
  · rintro ⟨started, now, overflows⟩
    obtain ⟨cause, failed⟩ := Command.overflows valid overflows
    exact ⟨Bool, World.unreachable started now, false, cause, failed⟩

end Commands

/-! ## An overflow that escapes -/

section Steep

/-- The result is a failure for a delay that is beyond the scale. -/
def Command.overflowed : Except (Failure τ) α → Bool
  | .error (.overflow _) => true
  | _ => false

/-- A policy whose delays grow so fast that only the cap keeps them short. -/
def RetryPolicy.steep : RetryPolicy Float :=
  { maxAttempts := 4, baseDelay := 1.0, multiplier := 1e200, maxDelay := some 30.0 }

/-- The economics of the network, read under that policy from a gateway that stays busy. -/
def steepRead : Run (Script Float) Float (Except (Failure Float) NetworkEconomics) :=
  ((Command.read .networkEconomics).run .onThisMachine { policy := some .steep }).runIn Script.world
    { now := 0.0, replies := [⟨some (.response { status := 503 }), 0.0, false⟩] }

/-- The third delay is never computed. -/
theorem result_steepRead : ∃ cause, steepRead.result = .error (.overflow cause) := by
  have overflows : Command.overflowed steepRead.result = true := by decide +kernel
  unfold Command.overflowed at overflows
  split at overflows
  next cause failed => exact ⟨cause, failed⟩
  next => cases overflows

/-- The policy is accepted and the read has no arguments, and yet it neither gives a result nor
fails with an error of the gateway. -/
theorem Command.overflow_escapes :
    RetryPolicy.steep.fault? = none ∧ Read.networkEconomics.Valid Client.onThisMachine ∧
      ¬ ((∃ a, steepRead.result = .ok a) ∨ ∃ e, steepRead.result = .error (.api e)) := by
  obtain ⟨cause, failed⟩ := result_steepRead
  refine ⟨Option.isNone_iff_eq_none.mp (by decide +kernel), trivial, ?_⟩
  rw [failed]
  rintro (⟨a, ok⟩ | ⟨e, api⟩)
  · cases ok
  · cases api

/-- The way out of that read is open because its policy overflows. -/
theorem Command.overflows_iff_steep :
    let read : Command Float NetworkEconomics := .read .networkEconomics
    read.Valid .onThisMachine ∧ RetryPolicy.steep.Overflows ∧
      ((∃ a, steepRead.result = .ok a) ∨
        (read.isPoll = false ∧ ∃ e, steepRead.result = .error (.api e)) ∨
        (∃ cause, steepRead.result = .error (.overflow cause)) ∨
        read.echoes = true ∧ ∃ text : Text, text.toString? = none ∧
          steepRead.result = .error (.unencodable text)) := by
  intro read
  obtain ⟨cause, failed⟩ := result_steepRead
  have law := Command.overflows_iff Client.onThisMachine { policy := some .steep } read trivial
  exact ⟨trivial, law.2.mp ⟨_, Script.world, _, cause, failed⟩, law.1 Script.world _⟩

end Steep
end GatewayClient
