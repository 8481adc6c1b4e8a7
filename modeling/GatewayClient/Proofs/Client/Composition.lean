import GatewayClient.Proofs.Client.Commands
import GatewayClient.Proofs.Program.Signals

/-!
# What operations are made of

Every operation but a poll is a chain of calls with something on the side: its arguments are
checked before a call, a payload is checked and read after it, a warning is reported. What is on the
side asks nothing of the gateway, and it fails for good.

**All reads and writes are made so** (`Read.madeOf`, `Write.madeOf`), and so is the sending of a
transaction that is then confirmed. A law of such chains is then a matter of one induction: what
holds of a call under the policy in force, and of all that is on the side, holds of the operation.
-/

set_option autoImplicit false

namespace GatewayClient

variable {τ α β : Type}

/-- The step is a warning. -/
def Event.Warns (e : Event τ) : Prop := ∃ warning, e = .warned warning

/-- A failure that no request led to: an argument that is refused, a payload that is malformed, or a
path that cannot be filled. It counts no requests, and it is never one that may pass. -/
def Failure.IsLocal : Failure τ → Prop
  | .api e => e.attempts = 0 ∧ (e.kind = .fatal ∨ e.kind = .decode)
  | .argument _ | .unencodable _ | .undecodable _ => True
  | .overflow _ => False

/-- A failure that no request led to is no cancellation. -/
theorem Failure.IsLocal.isCancelled {failure : Failure τ} (h : failure.IsLocal) :
    failure.isCancelled = false := by
  cases failure with
  | api e =>
    show (e.kind == .cancelled) = false
    rcases h with ⟨-, fatal | decode⟩
    · rw [fatal]
      rfl
    · rw [decode]
      rfl
  | argument _ | unencodable _ | overflow _ | undecodable _ => rfl

/-- A call without a route fails for good. -/
theorem RouteFault.isLocal_toFailure (fault : RouteFault) :
    (fault.toFailure : Failure τ).IsLocal := by
  cases fault with
  | unwritable fault => cases fault <;> trivial
  | unknownVersion _ | unknownOperation _ | simulatorOnly _ | missingValues _ _ =>
    exact ⟨rfl, .inl rfl⟩

/-! ## Actions on the side -/

namespace Action

/-- The action does no more than warn, and fails for good. -/
abbrev Aside (x : Action τ α) : Prop := x.Ensures Event.Warns Failure.IsLocal fun _ => True

namespace Aside

theorem bind {x : Action τ α} {f : α → Action τ β} (hx : x.Aside) (hf : ∀ a, (f a).Aside) :
    Aside (x >>= f) :=
  Ensures.bind hx fun a _ => hf a

theorem pure (a : α) : Aside (Pure.pure a : Action τ α) := Ensures.pure trivial

theorem warn (warning : Warning τ) : (Action.warn warning).Aside := Ensures.warn ⟨warning, rfl⟩

/-- What is expected may be missing; that is a failure for good. -/
theorem expect (what : String) (found : Option α) :
    (Action.expect what found : Action τ α).Aside := by
  cases found with
  | some a => exact pure a
  | none => exact Ensures.fail trivial

/-- An action on the side leaves nothing but warnings. -/
theorem quiet {x : Action τ α} (h : x.Aside) {log : Log τ} {r : Except (Failure τ) α}
    (traces : x.Traces log r) : ∀ e ∈ log, e.Warns :=
  (h traces).1

/-- An action on the side asks for nothing, so for nothing with another body. -/
theorem bears {x : Action τ α} (h : x.Aside) (body : Option Bytes) :
    x.Ensures (Event.Bears body) (fun _ => True) fun _ => True := by
  refine h.mono (fun e => ?_) (fun _ _ => trivial) fun _ _ => trivial
  rintro ⟨warning, rfl⟩
  exact .of_silent rfl

end Aside
end Action

namespace Client

open GatewayClient.Action (Aside)

/-- A check of an argument is on the side. -/
theorem aside_require (name : String) (value : Text) :
    (require name value : Action τ Unit).Aside := by
  unfold require
  split
  · exact .fail trivial
  · exact .pure ()

theorem aside_validate (schema : Schema) (what : String) (j : Json) :
    (validate schema what j : Action τ Unit).Aside :=
  .lift (fun _ _ => trivial) fun _ malformed =>
    ⟨Schema.attempts_of_validate malformed, .inr (Schema.kind_of_validate malformed)⟩

/-- A payload that is checked and then read. -/
theorem aside_decode (schema : Schema) (what : String) (j : Json) (found : Option α) :
    Aside (do validate schema what j; Action.expect what found : Action τ α) :=
  (aside_validate schema what j).bind fun _ => .expect what found

end Client

variable [TimeScale τ]

/-! ## Chains of calls -/

/-- What the calls of an operation have in common: the policy that they follow, and whether they
watch the event. -/
structure Call.Under (p : RetryPolicy τ) (watching : Bool) (c : Call τ) : Prop where
  policy : c.policy = p
  watching : c.watching = watching

namespace Action

/-- The action is a chain of calls under a policy, at most as many as the number says, and of
actions on the side. -/
inductive MadeOf (p : RetryPolicy τ) (watching : Bool) : {α : Type} → Nat → Action τ α → Prop
  | aside {α : Type} {n : Nat} {x : Action τ α} (quiet : x.Aside) : MadeOf p watching n x
  | call {c : Call τ} (under : c.Under p watching) : MadeOf p watching 1 c.run
  | bind {α β : Type} {m n : Nat} {x : Action τ α} {f : α → Action τ β}
      (first : MadeOf p watching m x) (next : ∀ a, MadeOf p watching n (f a)) :
      MadeOf p watching (m + n) (x >>= f)

namespace MadeOf

variable {p : RetryPolicy τ} {watching : Bool} {n : Nat} {x : Action τ α} {f : α → Action τ β}

/-- Something on the side comes first. -/
theorem after (quiet : x.Aside) (rest : ∀ a, MadeOf p watching n (f a)) :
    MadeOf p watching n (x >>= f) :=
  Nat.zero_add n ▸ bind (aside quiet) rest

/-- Something on the side comes last. -/
theorem before (first : MadeOf p watching n x) (quiet : ∀ a, (f a).Aside) :
    MadeOf p watching n (x >>= f) :=
  Nat.add_zero n ▸ bind first fun a => aside (quiet a)

end MadeOf
end Action

/-! ## The operations of a client -/

namespace Client

open GatewayClient.Action (MadeOf Aside)

variable (c : Client τ) (o : CallOptions τ)

theorem aside_noteStatus (word : Text) : (c.noteStatus word).Aside := by
  unfold noteStatus
  split
  · exact .pure ()
  · exact .warn _

/-- All requests of a call, repeated ones too, have its body. -/
theorem bears_call (op : Operation) (values : PathValues) (query : Query) (body : Option Bytes)
    (idempotent : Bool) : (c.call op values query body idempotent o).Ensures (Event.Bears body)
      (fun _ => True) fun _ => True :=
  (c.ensures_call (fun _ => .of_silent) values query body idempotent o False.elim
    fun _ _ _ => .of_request).mono (fun _ => id) (fun _ _ => trivial) fun _ => id

/-- A call follows its policy. An operation that has no route fails for good. -/
theorem madeOf_call (op : Operation) (values : PathValues) (query : Query) (body : Option Bytes)
    (idempotent : Bool) :
    MadeOf (if idempotent then c.policyFor o else .single) o.watching 1
      (c.call op values query body idempotent o) := by
  cases resolves : c.config.catalog.route op values query with
  | error fault =>
    have unrouted : (Action.fail fault.toFailure : Action τ Route).Ensures Event.Warns
        Failure.IsLocal fun _ => False := .fail fault.isLocal_toFailure
    rw [call, resolves]
    exact .aside (Action.Ensures.bind unrouted fun _ never => never.elim)
  | ok route =>
    rw [call_eq_run resolves]
    exact .call ⟨rfl, rfl⟩

/-- A read of a route makes one call. -/
theorem madeOf_read (op : Operation) (values : PathValues) :
    MadeOf (c.policyFor o) o.watching 1 (c.read op values o) :=
  c.madeOf_call o op values [] none true

theorem madeOf_getNetworkStatus (shard : Int) :
    MadeOf (c.policyFor o) o.watching 1 (c.getNetworkStatus shard o) :=
  (c.madeOf_read o _ _).before fun data => aside_decode _ _ (.obj data) _

/-- The parameters of a network take two calls: the epoch and the round stand in another payload. -/
theorem madeOf_getNetworkConfig :
    MadeOf (c.policyFor o) o.watching 2 (c.getNetworkConfig o) := by
  refine (c.madeOf_read o _ _).bind (m := 1) (n := 1) fun data => ?_
  refine .after (aside_validate _ _ (.obj data)) fun _ => ?_
  exact (c.madeOf_getNetworkStatus o metachainShard).before fun status => .expect _ _

theorem madeOf_getAccount (address : String) :
    MadeOf (c.policyFor o) o.watching 1 (c.getAccount address o) := by
  refine .after (aside_require "address" address) fun _ => ?_
  exact (c.madeOf_read o _ _).before fun data => aside_decode _ _ (.obj data) _

theorem madeOf_getTransaction (hash : Text) (withResults : Bool) :
    MadeOf (c.policyFor o) o.watching 1 (c.getTransaction hash withResults o) := by
  refine .after (aside_require "tx_hash" hash) fun _ => ?_
  refine (c.madeOf_call o _ _ _ _ true).before fun data => ?_
  refine (aside_validate _ _ (.obj data)).bind fun _ => ?_
  refine (Aside.expect _ _).bind fun tx => ?_
  exact (c.aside_noteStatus tx.rawStatus).bind fun _ => .pure tx

/-- To read a block from the payload of some calls takes no call more. -/
theorem madeOf_readHyperBlock {x : Action τ Json.Fields} {n : Nat} {p : RetryPolicy τ}
    {watching : Bool} (asks : MadeOf p watching n x) :
    MadeOf p watching n (x >>= readHyperBlock) :=
  asks.before fun data => aside_decode _ _ (.obj data) _

/-- An action on the simulator of a client is made of what it is made of on a simulator. -/
theorem madeOf_onSimulator {act : Simulator τ → Action τ α} {n : Nat} {p : RetryPolicy τ}
    {watching : Bool} (acts : ∀ s, s.client = c → MadeOf p watching n (act s)) :
    MadeOf p watching n (c.onSimulator act) := by
  by_cases isSimulator : c.config.simulator = true
  · rw [onSimulator_eq isSimulator]
    exact acts ⟨c, isSimulator⟩ rfl
  · have refused : ∃ fault, c.onSimulator act = Action.refuse fault :=
      onSimulator_refuses fun simulates => absurd simulates isSimulator
    obtain ⟨fault, eq⟩ := refused
    rw [eq]
    exact .aside (.fail trivial)

end Client

open GatewayClient.Action (MadeOf Aside)

/-! ## Commands -/

/-- How many calls a read makes at most. -/
def Read.calls : Read α → Nat
  | .networkConfig => 2
  | .transactionArguments _ none => 3
  | _ => 1

/-- Every read is made of calls under the policy of its options. -/
theorem Read.madeOf (c : Client τ) (o : CallOptions τ) (r : Read α) :
    MadeOf (c.policyFor o) o.watching r.calls (r.run c o) := by
  cases r with
  | networkConfig => exact c.madeOf_getNetworkConfig o
  | networkStatus shard => exact c.madeOf_getNetworkStatus o shard
  | networkEconomics =>
    exact (c.madeOf_read o _ _).before fun data => Client.aside_decode _ _ (.obj data) _
  | account address => exact c.madeOf_getAccount o address
  | accountStorageKey address key =>
    refine .after (Client.aside_require "address" address) fun _ => ?_
    refine .after (Client.aside_require "key" key) fun _ => ?_
    exact (c.madeOf_read o _ _).before fun data => Client.aside_decode _ _ (.obj data) _
  | accountTokens address =>
    refine .after (Client.aside_require "address" address) fun _ => ?_
    exact (c.madeOf_read o _ _).before fun data => Client.aside_decode _ _ (.obj data) _
  | transactionArguments address network =>
    have account : ∀ network : NetworkConfig, MadeOf (c.policyFor o) o.watching 1 (do
        let account ← c.getAccount address o
        return TransactionArguments.of account network) := fun network =>
      (c.madeOf_getAccount o address).before fun account => .pure _
    cases network with
    | some network => exact account network
    | none => exact (c.madeOf_getNetworkConfig o).bind (m := 2) (n := 1) account
  | transactionCost request =>
    exact (c.madeOf_call o _ _ _ _ true).before fun data => Client.aside_decode _ _ (.obj data) _
  | transaction hash withResults => exact c.madeOf_getTransaction o hash withResults
  | transactionStatus hash =>
    refine .after (Client.aside_require "tx_hash" hash) fun _ => ?_
    refine (c.madeOf_read o _ _).before fun data => ?_
    refine (Client.aside_validate _ _ (.obj data)).bind fun _ => ?_
    refine (Aside.expect _ _).bind fun word => ?_
    exact (c.aside_noteStatus word).bind fun _ => .pure _
  | token identifier =>
    refine .after (Client.aside_require "identifier" identifier) fun _ => ?_
    exact (c.madeOf_read o _ _).before fun data => Client.aside_decode _ _ _ _
  | vmQuery query =>
    refine .after (Client.aside_require "sc_address" query.scAddress) fun _ => ?_
    refine .after (Client.aside_require "func_name" query.funcName) fun _ => ?_
    exact (c.madeOf_call o _ _ _ _ true).before fun data => Client.aside_decode _ _ (.obj data) _
  | hyperBlockByNonce nonce =>
    show MadeOf _ _ 1 (c.getHyperBlockByNonce nonce o)
    unfold Client.getHyperBlockByNonce
    split
    · exact .aside (.fail trivial)
    · exact Client.madeOf_readHyperBlock (c.madeOf_read o _ _)
  | hyperBlockByHash hash =>
    refine .after (Client.aside_require "block_hash" hash) fun _ => ?_
    exact Client.madeOf_readHyperBlock (c.madeOf_read o _ _)
  | latestHyperBlockNonce =>
    refine (c.madeOf_getNetworkStatus o Client.metachainShard).before fun status => ?_
    split
    · exact .pure _
    · exact .fail ⟨rfl, .inr rfl⟩
  | initialWallets =>
    refine c.madeOf_onSimulator fun s same => ?_
    subst same
    refine (s.client.madeOf_read o _ _).before fun data => ?_
    exact (Client.aside_validate _ _ (.obj data)).bind fun _ => .pure data

omit [TimeScale τ] in
/-- Reading the answer of a write is on the side. -/
theorem Write.aside_finish (write : Write α) (data : Json.Fields) :
    (write.finish data : Action τ α).Aside := by
  cases write with
  | sendTransaction request => exact Client.aside_decode _ _ (.obj data) _
  | sendTransactions requests =>
    refine (Client.aside_validate _ _ (.obj data)).bind fun _ => ?_
    refine (Aside.expect _ _).bind fun receipt => ?_
    split
    · exact (Aside.warn _).bind fun _ => .pure _
    · exact .pure _
  | generateBlocks _ | generateBlocksUntilTransactionProcessed _
  | generateBlocksUntilEpochReached _ | setState _ => exact .pure ()

/-- Every write is made of one call that may not be repeated. -/
theorem Write.madeOf (write : Write α) (c : Client τ) (watching : Bool) :
    MadeOf .single watching 1 (write.run c watching) := by
  by_cases accepted : write.Accepted c
  · rw [run_eq_of_accepted accepted]
    exact (c.madeOf_call { watching } _ _ _ _ false).before fun data => write.aside_finish data
  · have refused : ∃ fault, write.run c watching = Action.refuse fault :=
      run_eq_of_not_accepted accepted
    obtain ⟨fault, eq⟩ := refused
    rw [eq]
    exact .aside (.fail trivial)

/-- The sending of a transaction that is then confirmed is made of three calls, none of which is
repeated. -/
theorem Simulator.madeOf_sendAndConfirm (s : Simulator τ) (request : TransactionRequest)
    (blocks : Int) (withResults watching : Bool) :
    MadeOf .single watching 3 (s.sendAndConfirm request blocks withResults watching) := by
  have sends := (Write.sendTransaction request).madeOf s.client watching
  have produces : MadeOf .single watching 1 (s.generateBlocks blocks watching) := by
    have writes := (Write.generateBlocks blocks).madeOf s.client watching
    rwa [show (Write.generateBlocks blocks).run s.client watching = s.generateBlocks blocks watching
      from Client.onSimulator_eq s.isSimulator] at writes
  rw [sendAndConfirm_eq]
  refine sends.bind (m := 1) (n := 2) fun hash => ?_
  refine produces.bind (m := 1) (n := 1) fun _ => ?_
  have query := s.client.madeOf_getTransaction { policy := some .single, watching } hash withResults
  refine query.before fun tx => ?_
  split
  · exact (Aside.warn _).bind fun _ => .pure tx
  · exact .pure tx

/-- How many calls a command makes at most, if it is a chain of calls. -/
def Command.calls : Command τ α → Option Nat
  | .read r => some r.calls
  | .write _ | .call .. => some 1
  | .sendAndConfirm .. => some 3
  | .poll .. | .pause _ => none

end GatewayClient
