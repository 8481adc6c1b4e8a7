import GatewayClient.Proofs.Client.Writes
import GatewayClient.Proofs.Poll.Behaviour

/-!
# What commands ask for, and how they fail

Every command asks for nothing but routes of its client, and fails as its family does
(`Command.ensures`): with an error of the gateway unless it is a poll, with a delay beyond the scale
where the policy in force comes to one, and with a refusal where its arguments are not valid. There
is no other way out.
-/

set_option autoImplicit false

namespace GatewayClient

variable {τ α : Type} [TimeScale τ]

namespace Simulator

/-- What follows the sending of a transaction that is to be confirmed. -/
def confirm (s : Simulator τ) (blocks : Int) (withResults watching : Bool) (hash : Text) :
    Action τ TransactionOnNetwork := do
  s.generateBlocks blocks watching
  let tx ← s.client.getTransaction hash withResults { policy := some .single, watching }
  if !tx.isTerminal then Action.warn (.stillPending hash tx.rawStatus blocks)
  return tx

/-- A transaction is sent first, and then confirmed by the hash that the node gave it. -/
theorem sendAndConfirm_eq (s : Simulator τ) (request : TransactionRequest) (blocks : Int)
    (withResults watching : Bool) : s.sendAndConfirm request blocks withResults watching =
      s.client.sendTransaction request watching >>= s.confirm blocks withResults watching :=
  rfl

/-- What follows sends no transactions again, and fails as expected, or because the hash has a
surrogate. -/
theorem ensures_confirm (s : Simulator τ) (blocks : Int) (withResults watching : Bool)
    {hash : Text} (filled : hash ≠ "") :
    (s.confirm blocks withResults watching hash).Ensures
      (Event.Routed s.client fun op => op.broadcasts = false)
      (fun failure => failure.Expected (1 ≤ blocks ∧ Decimal.isWritable blocks = true) .single ∨
        hash.toString? = none ∧ failure = .unencodable hash)
      fun _ => True := by
  have produces : s.client.Behaves .single (1 ≤ blocks ∧ Decimal.isWritable blocks = true)
      (s.generateBlocks blocks watching) fun _ => True := by
    have behaves := (Write.generateBlocks blocks).behaves s.client watching rfl
    have same : (Write.generateBlocks blocks).run s.client watching =
        s.generateBlocks blocks watching := Client.onSimulator_eq s.isSimulator
    rw [same] at behaves
    refine behaves.mono (fun _ h => h) (fun _ h => ?_) fun _ _ => trivial
    exact h.imp (fun positive => ⟨s.isSimulator, positive⟩) id
  refine (produces.mono (fun _ h => h) (fun _ h => .inl h) fun _ h => h).bind fun _ _ => ?_
  refine Action.Ensures.bind (R := fun _ => True) ?_ fun tx _ => ?_
  · cases known : hash.toString? with
    | none =>
      rw [s.client.getTransaction_of_unencodable _ filled known]
      exact .fail (.inr ⟨rfl, rfl⟩)
    | some text =>
      have query := s.client.behaves_getTransaction { policy := some .single, watching } hash
        withResults (fun _ : 1 ≤ blocks ∧ Decimal.isWritable blocks = true => filled)
        fun _ => by rw [known, Option.isSome_some]
      exact query.mono (fun _ h => h) (fun _ h => .inl h) fun _ h => h
  · split
    · exact (Action.Ensures.warn trivial).bind fun _ _ => .pure trivial
    · exact .pure trivial

end Simulator

namespace Command

/-- The arguments are ones that the command takes, of a client that has it. A call by name takes
what its path needs. -/
def Valid (c : Client τ) : Command τ α → Prop
  | read r => r.Valid c
  | write w => w.Accepted c
  | sendAndConfirm _ blocks _ =>
    c.config.simulator = true ∧ 1 ≤ blocks ∧ Decimal.isWritable blocks = true
  | call name values query _ _ => ∃ route, c.config.catalog.resolve name values query = .ok route
  | poll hash _ => hash ≠ ""
  | pause _ => True

/-- The policy that a command follows. What may not be repeated has a single attempt. -/
def policyInForce (c : Client τ) (o : CallOptions τ) : Command τ α → RetryPolicy τ
  | read _ => c.policyFor o
  | call _ _ _ _ idempotent => if idempotent then c.policyFor o else .single
  | poll .. => o.policy.getD defaultPollPolicy
  | write _ | sendAndConfirm .. | pause _ => .single

/-- The command is a poll. -/
def isPoll : Command τ α → Bool
  | poll .. => true
  | _ => false

/-- The command asks for something by a text that a node answered with. -/
def echoes : Command τ α → Bool
  | sendAndConfirm .. => true
  | _ => false

/-- The failures that are expected of a command. A text that a node answered with may have a
surrogate, and then nothing can be asked for by it. -/
def Expected (c : Client τ) (o : CallOptions τ) (command : Command τ α) (failure : Failure τ) :
    Prop :=
  (failure.Expected (command.Valid c) (command.policyInForce c o) ∨
    command.echoes = true ∧ ∃ text : Text, text.toString? = none ∧ failure = .unencodable text) ∧
    (command.isPoll = true → ∀ e, failure ≠ .api e)

/-- Every command asks for nothing but routes of its client, and fails as expected. -/
theorem ensures (c : Client τ) (o : CallOptions τ) (command : Command τ α) :
    (command.run c o).Ensures (Event.Routed c fun _ => True) (command.Expected c o)
      fun _ => True := by
  have widen : ∀ {allowed : Operation → Prop} (e : Event τ), e.Routed c allowed →
      e.Routed c fun _ => True := fun e h => h.mono fun _ _ => trivial
  cases command with
  | read r => exact (r.behaves c o).mono widen (fun _ h => ⟨.inl h, nofun⟩) fun _ _ => trivial
  | write w =>
    have writes := w.ensures_run c o.watching (P := Event.Routed c fun _ => True)
      (fun _ => .of_silent) fun route resolves _ => ⟨_, _, _, route, _, trivial, resolves, rfl⟩
    exact writes.mono (fun _ h => h) (fun _ h => ⟨.inl h, nofun⟩) fun _ _ => trivial
  | call name values query body idempotent =>
    show (c.callNamed name values query body idempotent o).Ensures _ _ _
    unfold Client.callNamed
    split
    next op found =>
      -- What resolves has filled slots, so nothing in its path can fail to be written.
      have writable : (call name values query body idempotent : Command τ _).Valid c →
          ∀ slot ∈ (template c.config.apiVersion op).slots,
            (values.get slot).isWritable = true := by
        rintro ⟨route, resolves⟩ slot mem
        rw [Catalog.resolve, found] at resolves
        exact (PathValue.fills_iff.mp ((Catalog.route_eq_ok_iff.mp resolves).2.1 slot mem)).2
      have calls : (c.call op values query body idempotent o).Ensures _ _ _ :=
        c.ensures_call (P := Event.Routed c fun _ => True) (fun _ => .of_silent) values query body
          idempotent o writable
          fun route resolves _ => ⟨op, values, query, route, body, trivial, resolves, rfl⟩
      exact calls.mono (fun _ h => h) (fun _ h => ⟨.inl h, nofun⟩) fun _ h => h
    next => exact .fail ⟨.inl trivial, nofun⟩
  | sendAndConfirm request blocks withResults =>
    show (c.onSimulator _).Ensures _ _ _
    by_cases isSimulator : c.config.simulator = true
    · rw [Client.onSimulator_eq isSimulator, Simulator.sendAndConfirm_eq]
      have sends := (Write.sendTransaction request).ensures_run c o.watching
        (P := Event.Routed c fun _ => True) (fun _ => .of_silent)
        fun route resolves _ => ⟨_, _, _, route, _, trivial, resolves, rfl⟩
      -- The sending and what follows it have arguments of their own, and are valid where the
      -- command is.
      have expected : ∀ {valid : Prop} (failure : Failure τ),
          ((sendAndConfirm request blocks withResults : Command τ _).Valid c → valid) →
          failure.Expected valid .single →
          (sendAndConfirm request blocks withResults : Command τ _).Expected c o failure :=
        fun failure weaker h => ⟨.inl (h.imp weaker id), nofun⟩
      refine (sends.mono (fun _ h => h) (fun f h => expected f (fun _ => trivial) h)
        fun _ h => h).bind fun hash filled => ?_
      have confirms :=
        Simulator.ensures_confirm ⟨c, isSimulator⟩ blocks withResults o.watching filled
      refine confirms.mono widen (fun f h => ?_) fun _ h => h
      rcases h with h | ⟨unknown, same⟩
      · exact expected f (fun valid => valid.2) h
      · exact ⟨.inr ⟨rfl, hash, unknown, same⟩, nofun⟩
    · have refused : ∃ fault, c.onSimulator (fun s => s.sendAndConfirm request blocks withResults
          o.watching) = Action.refuse fault :=
        Client.onSimulator_refuses fun simulates => absurd simulates isSimulator
      obtain ⟨fault, eq⟩ := refused
      rw [eq]
      exact .fail ⟨.inl fun valid => isSimulator valid.1, nofun⟩
  | poll hash withResults =>
    exact (Poll.behaves_run _).mono widen (fun _ h => ⟨.inl h.1, fun _ => h.2⟩) fun _ _ => trivial
  | pause delay =>
    exact Action.Ensures.pause (P := Event.Routed c fun _ => True) (fun _ => trivial) trivial

end Command
end GatewayClient
