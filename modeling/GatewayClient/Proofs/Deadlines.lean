import GatewayClient.Proofs.Client.Deadline

/-!
# Reads and their deadlines

A policy with a deadline bounds a read that makes one call: none of its requests begins later than
that after the first one. A read that makes several calls gives the whole budget to each of them, so
its last request can begin when the budget has long been used up.

**The reads of one call are exactly those that keep the deadline** (`Read.deadline_law`). The others
are the parameters of the network, and the fields for a new transaction that are put together from
them.
-/

set_option autoImplicit false

namespace GatewayClient

variable {α : Type}

namespace Read

/-- Whatever the world, as long as it keeps time, and whatever the policy that is accepted: the
requests of the read begin within the deadline, counted from the first of them. -/
def KeepsDeadline (r : Read α) : Prop :=
  ∀ (σ : Type) (w : World σ Rat) (sound : σ → Prop) (c : Client Rat) (o : CallOptions Rat)
    (deadline : Rat) (s : σ), w.KeepsTime sound → sound s → (c.policyFor o).fault? = none →
    (c.policyFor o).deadline = some deadline →
    ∀ first times, (r.run c o).starts w s = first :: times →
      ∀ t ∈ times, first ≤ t ∧ t ≤ first + deadline

/-- The requests of a read fall into as many stretches as it makes calls, each within the deadline
of its policy, and its sleeps last for no longer than the deadlines of all of them. -/
theorem within {σ : Type} {w : World σ Rat} {sound : σ → Prop} (keeps : w.KeepsTime sound)
    (c : Client Rat) (o : CallOptions Rat) (r : Read α) {deadline : Rat} {s : σ} (here : sound s)
    (accepted : (c.policyFor o).fault? = none)
    (budget : (c.policyFor o).deadline = some deadline) :
    Stretches deadline r.calls ((r.run c o).starts w s) ∧
      ((r.run c o).runIn w s).slept.sum ≤ r.calls * deadline := by
  have positive := RetryPolicy.deadline_pos accepted budget
  have traces := Action.traces_runIn (r.run c o) w s
  exact (r.madeOf c o).within budget (Rat.le_of_lt positive) traces (keeps.timed_runIn _ here)

/-- A read that makes one call keeps the deadline. -/
theorem keepsDeadline_of_single {r : Read α} (single : r.calls = 1) : r.KeepsDeadline := by
  intro σ w sound c o deadline s keeps here accepted budget first times begun
  have stretches := (r.within keeps c o here accepted budget).1
  rw [single, begun] at stretches
  exact stretches.of_single

end Read

section Slow

/-- A client whose calls may be repeated for one second. -/
def hurriedClient : Client Rat where
  config :=
    { baseUrl := simulatorGateway
      apiVersion := .v1
      timeout := 30.0
      retry := { deadline := some 1 }
      simulator := false
      userAgent := defaultUserAgent }

/-- The policy of the hurried client is accepted. -/
theorem fault?_hurriedClient : (hurriedClient.policyFor {}).fault? = none := by
  decide +kernel

/-- A gateway that takes half a second to say what the parameters of its network are, and then half
a second to say that it is busy. -/
def slowGateway : Script Rat where
  now := 0
  replies :=
    [{ answer := some (.response
        { status := 200
          content := Bytes.ofText
            ("\x7b\"config\":\x7b\"erd_chain_id\":\"1\",\"erd_min_gas_price\":1,"
              ++ "\"erd_min_gas_limit\":1,\"erd_gas_per_data_byte\":1,"
              ++ "\"erd_min_transaction_version\":1,\"erd_round_duration\":1,"
              ++ "\"erd_num_shards_without_meta\":1,\"erd_denomination\":18\x7d\x7d") })
       advance := 1/2 },
     { answer := some (.response { status := 503 }), advance := 1/2 },
     { answer := some (.response
        { status := 200
          content := Bytes.ofText
            "\x7b\"status\":\x7b\"erd_current_round\":1,\"erd_epoch_number\":1\x7d\x7d" })
       advance := 0 }]

/-- The clock of the slow gateway never goes back. -/
theorem forward_slowGateway : slowGateway.Forward := by
  refine ⟨?_, nofun⟩
  decide +kernel

/-- The budget is one second, and the last request begins after one and a half. -/
theorem starts_slowGateway :
    ((Read.networkConfig).run hurriedClient {}).starts Script.world slowGateway =
      [0, 1/2, 3/2] := by
  -- the characters of short texts are found faster than those of a long one
  simp only [slowGateway, Bytes.ofText, String.toList_append]
  decide +kernel

/-- One and a half seconds are past the deadline. -/
theorem late_slowGateway : ¬ (3/2 : Rat) ≤ 0 + 1 := by
  grind

end Slow

namespace Read

/-- A read that begins as the parameters of the network are read does not keep the deadline. -/
theorem not_keepsDeadline_of_starts {r : Read α} {later : List Rat}
    (begun : (r.run hurriedClient {}).starts Script.world slowGateway = 0 :: 1/2 :: 3/2 :: later) :
    ¬ r.KeepsDeadline := by
  intro keeps
  have bound : (3/2 : Rat) ≤ 0 + 1 :=
    (keeps _ Script.world Script.Forward hurriedClient {} 1 slowGateway Script.keepsTime
      forward_slowGateway fault?_hurriedClient rfl 0 (1/2 :: 3/2 :: later) begun (3/2)
      (.tail _ (.head _))).2
  exact late_slowGateway bound

/-- The parameters of the network are not read within one deadline: the second call counts anew. -/
theorem not_keepsDeadline_networkConfig : ¬ Read.networkConfig.KeepsDeadline :=
  not_keepsDeadline_of_starts starts_slowGateway

/-- The parameters of the network are read first, whatever the address is. -/
theorem not_keepsDeadline_transactionArguments (address : String) :
    ¬ (Read.transactionArguments address none).KeepsDeadline := by
  obtain ⟨later, begun⟩ := Action.starts_bind Script.world (hurriedClient.getNetworkConfig {})
    (fun network => do
      let account ← hurriedClient.getAccount address {}
      return TransactionArguments.of account network) slowGateway
  have first : (hurriedClient.getNetworkConfig {}).starts Script.world slowGateway =
      [0, 1/2, 3/2] := starts_slowGateway
  rw [first] at begun
  exact not_keepsDeadline_of_starts begun

/-- The requests of a read under a policy with a deadline fall into as many stretches as it makes
calls. None of them begins later in its stretch than the deadline allows, and the sleeps last for no
longer than the deadlines of all calls. The deadline is kept by the read as a whole exactly if it
makes one call. -/
theorem deadline_law (r : Read α) :
    (∀ {σ : Type} (w : World σ Rat) (sound : σ → Prop) (c : Client Rat) (o : CallOptions Rat)
        (deadline : Rat) (s : σ), w.KeepsTime sound → sound s →
        (c.policyFor o).fault? = none → (c.policyFor o).deadline = some deadline →
        Stretches deadline r.calls ((r.run c o).starts w s) ∧
          ((r.run c o).runIn w s).slept.sum ≤ r.calls * deadline) ∧
      (r.KeepsDeadline ↔ r.calls = 1) := by
  refine ⟨?_, ?_, keepsDeadline_of_single⟩
  · intro σ w sound c o deadline s keeps here accepted budget
    exact r.within keeps c o here accepted budget
  · intro keeps
    cases r with
    | networkConfig => exact absurd keeps not_keepsDeadline_networkConfig
    | transactionArguments address network =>
      cases network with
      | some network => rfl
      | none => exact absurd keeps (not_keepsDeadline_transactionArguments address)
    | _ => rfl

/-- Against the slow gateway both calls keep to their second, and the read does not. -/
theorem deadline_law_slow :
    (hurriedClient.policyFor {}).fault? = none ∧
      Stretches 1 2 ([0, 1/2, 3/2] : List Rat) ∧ ¬ Read.networkConfig.KeepsDeadline := by
  obtain ⟨stretches, kept⟩ := Read.networkConfig.deadline_law
  have slow := (stretches Script.world Script.Forward hurriedClient {} 1 slowGateway
    Script.keepsTime forward_slowGateway fault?_hurriedClient rfl).1
  rw [starts_slowGateway] at slow
  refine ⟨fault?_hurriedClient, slow, fun keeps => ?_⟩
  have single : (2 : Nat) = 1 := kept.mp keeps
  cases single

/-- An accepted policy has a deadline of one second, and the last request of the read begins after
one and a half. -/
theorem late_request :
    (hurriedClient.policyFor {}).fault? = none ∧
      (hurriedClient.policyFor {}).deadline = some 1 ∧
      (Read.networkConfig.run hurriedClient {}).starts Script.world slowGateway = [0, 1/2, 3/2] ∧
      ¬ (3/2 : Rat) ≤ 0 + 1 :=
  ⟨fault?_hurriedClient, rfl, starts_slowGateway, late_slowGateway⟩

end Read
end GatewayClient
