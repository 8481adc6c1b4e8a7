import GatewayClient.Proofs.Client.Checks
import GatewayClient.Proofs.Payloads

/-!
# The two shapes of answers

A gateway puts a payload in an envelope, or answers with the payload itself. Which of the two it
does makes no difference (`Command.shapes_agree`): a command has the same result either way, and it
is the payload's value wherever the payload passes the checks.

**A bare payload has none of the keys of an envelope** (`Envelope.Holds`). One that has `data` is
taken for an envelope of what is there, so the answer to a contract query can be read from an
envelope only (`Read.bare_vmQuery`).
-/

set_option autoImplicit false

namespace GatewayClient

variable {σ σ' τ α : Type} [TimeScale τ]

namespace Envelope

/-- The response of success holds a payload: in an envelope that reports no error, or as its body.
The body is then none that could be taken for an envelope. -/
inductive Holds (payload : Json.Fields) : Response → Prop
  | enveloped {r : Response} {fields : Json.Fields} (ok : r.ok = true)
      (body : r.body? = some (.obj fields)) (data : fields.get? "data" = some (.obj payload))
      (error : fields.get? "error" = some (.str ""))
      (code : fields.get? "code" = some (.str successCode)) : Holds payload r
  | bare {r : Response} (ok : r.ok = true) (body : r.body? = some (.obj payload))
      (data : payload.get? "data" = none) (error : payload.get? "error" = none)
      (code : payload.get? "code" = none) : Holds payload r

/-- The payload of a response is what it holds. -/
theorem Holds.unwrap_eq {payload : Json.Fields} {r : Response} (h : Holds payload r) :
    (unwrap r : Except (ApiError τ) Json.Fields) = .ok payload := by
  cases h with
  | @enveloped fields ok body data error code =>
    have report : Report.ofBody (some (.obj fields)) = { code := some successCode } := by
      simp only [Report.ofBody, error, code]
      decide +kernel
    have carries : Carries r fields := ⟨ok, body, by rw [report]; decide +kernel⟩
    rw [carries.unwrap_eq, data]
  | bare ok body data error code =>
    have report : Report.ofBody (some (.obj payload)) = {} := by
      simp only [Report.ofBody, error, code]
      decide +kernel
    have carries : Carries r payload := ⟨ok, body, by rw [report]; decide +kernel⟩
    have absent : ∀ {key : String}, payload.get? key = none → ∀ field ∈ payload,
        field.1 != key := by
      intro key none field mem
      have missing := List.find?_eq_none.mp (Option.map_eq_none_iff.mp none) field mem
      rwa [Bool.not_eq_true, ← Bool.not_eq_true'] at missing
    rw [carries.unwrap_eq, data]
    refine congrArg Except.ok (List.filter_eq_self.mpr fun field mem => ?_)
    rw [absent error field mem, absent code field mem]
    rfl

end Envelope

/-- Two outcomes that are the same, or hold the same payload in a shape of their own. -/
inductive Outcome.Alike : Outcome → Outcome → Prop
  | same (outcome : Outcome) : Alike outcome outcome
  | shapes {payload : Json.Fields} {r r' : Response} (one : Envelope.Holds payload r)
      (other : Envelope.Holds payload r') : Alike (.response r) (.response r')

/-- Outcomes that are alike say the same. -/
theorem Outcome.saysSame_alike : SaysSame τ Alike := by
  intro a b alike
  cases alike with
  | same outcome => rfl
  | shapes one other => exact one.unwrap_eq.trans other.unwrap_eq.symm

/-- Where two gateways differ in nothing but the shapes of their answers, a command goes the same
way with both of them and ends with the same result. Where every request is answered with a payload
and nothing is signalled, a command that takes its arguments has a value, the same one for both,
exactly if the payloads pass its checks. -/
theorem Command.shapes_agree {w : World σ τ} {v : World σ' τ} {Same : σ → σ' → Prop}
    (mirrors : w.Mirrors Outcome.Alike Same v) {s : σ} {s' : σ'} (start : Same s s')
    (c : Client τ) (o : CallOptions τ) (command : Command τ α) :
    let r := (command.run c o).runIn w s
    let r' := (command.run c o).runIn v s'
    r.Mirrors Outcome.Alike Same r' ∧
      ∀ checks, command.Valid c → command.checks = some checks → r.events.Undisturbed →
        ((∃ a, r.result = .ok a ∧ r'.result = .ok a) ↔
          ∀ pair ∈ checks.zip r.events.payloads, pair.1 pair.2) := by
  intro r r'
  have agree : r.Mirrors Outcome.Alike Same r' :=
    (command.respects Outcome.saysSame_alike c o).runIn_alike mirrors start
  refine ⟨agree, fun checks valid chain undisturbed => ?_⟩
  rw [← command.returns_iff w s c o valid chain undisturbed, ← agree.result_eq]
  exact ⟨fun ⟨a, ok, _⟩ => ⟨a, ok⟩, fun ⟨a, ok⟩ => ⟨a, ok, ok⟩⟩

section Shaped

/-- The envelope of a payload. -/
def Json.Fields.enveloped (payload : Json.Fields) : Json :=
  .obj [("data", .obj payload), ("error", .str ""), ("code", .str Envelope.successCode)]

/-- A response of success with a body. -/
def Response.ofBody (body : Json) : Response where
  status := 200
  content := Bytes.ofText body.compact

/-- A gateway that gives the same answer again and again. -/
def Script.answering (body : Json) : Script Float where
  now := 0.0
  replies := [{ answer := some (.response (.ofBody body)), advance := 0.25 }]

/-- What a read of the client on this machine does there. -/
def Read.answered {α : Type} (r : Read α) (body : Json) :
    Run (Script Float) Float (Except (Failure Float) α) :=
  ((Command.read r).run .onThisMachine {}).runIn Script.world (.answering body)

/-- An account with a balance and a nonce. -/
def accountPayload : Json.Fields :=
  [("account", .obj [("balance", .str "100"), ("nonce", .num (.int 5))])]

/-- An account is read from an envelope and from a bare payload, and it is the same account. -/
theorem Command.shapes_agree_account :
    let read : Read AccountInfo := .account "drt1"
    let r := read.answered accountPayload.enveloped
    read.Valid Client.onThisMachine ∧ Schema.account.Takes accountPayload ∧
      r.events.Undisturbed ∧ r.events.payloads = [accountPayload] ∧
      ∃ a, r.result = .ok a ∧ (read.answered (.obj accountPayload)).result = .ok a := by
  intro read r
  have valid : ("drt1" : String) ≠ "" := by decide
  have fits : Schema.account.Fits (.obj accountPayload) := by decide +kernel
  have undisturbed : r.events.Undisturbed := ⟨by decide +kernel, by decide +kernel⟩
  have payloads : r.events.payloads = [accountPayload] := by decide +kernel
  have body : (Response.ofBody accountPayload.enveloped).body? =
      some accountPayload.enveloped := by decide +kernel
  have bareBody : (Response.ofBody (.obj accountPayload)).body? = some (.obj accountPayload) := by
    decide +kernel
  have alike : Outcome.Alike (.response (.ofBody accountPayload.enveloped))
      (.response (.ofBody (.obj accountPayload))) :=
    .shapes (.enveloped rfl body rfl rfl rfl) (.bare rfl bareBody rfl rfl rfl)
  have start : (Script.answering accountPayload.enveloped).Mirrors Outcome.Alike
      (.answering (.obj accountPayload)) :=
    ⟨.cons ⟨.some alike, rfl, rfl⟩ .nil, .nil, rfl, rfl, rfl, rfl, rfl⟩
  obtain ⟨-, law⟩ := Command.shapes_agree (Script.mirrors_world .same) start .onThisMachine {}
    (.read read)
  refine ⟨valid, fits, undisturbed, payloads, (law _ valid rfl undisturbed).mpr fun pair mem => ?_⟩
  change pair ∈ [Schema.account.Takes].zip r.events.payloads at mem
  rw [payloads] at mem
  cases List.mem_singleton.mp mem
  exact fits

/-- What a contract answers. -/
def contractPayload : Json.Fields :=
  [("data", .obj [("returnCode", .str "ok"), ("returnData", .arr [])])]

/-- What went wrong is an answer that is malformed. -/
def malformed {α : Type} : Except (Failure Float) α → Bool
  | .error (.api e) => e.kind == .decode
  | _ => false

/-- A malformed answer is an error of the kind `decode`. -/
theorem exists_of_malformed {α : Type} {r : Except (Failure Float) α} (h : malformed r = true) :
    ∃ e, r = .error (.api e) ∧ e.kind = .decode := by
  unfold malformed at h
  split at h
  next e => exact ⟨e, rfl, eq_of_beq h⟩
  next => cases h

/-- The answer to a contract query fits its schema and has neither of the keys of an error. It is
read from an envelope, and not where it is bare. -/
theorem Read.bare_vmQuery :
    let read : Read VmQueryResult := .vmQuery { scAddress := "drt1", funcName := "get" }
    Schema.vmQuery.Takes contractPayload ∧ contractPayload.get? "error" = none ∧
      contractPayload.get? "code" = none ∧
      (∃ a, (read.answered contractPayload.enveloped).result = .ok a) ∧
      ∃ e, (read.answered (.obj contractPayload)).result = .error (.api e) ∧ e.kind = .decode := by
  intro read
  have fits : Schema.vmQuery.Fits (.obj contractPayload) := by decide +kernel
  refine ⟨fits, rfl, rfl, ?_, exists_of_malformed (by decide +kernel)⟩
  have ok : (read.answered contractPayload.enveloped).result.isOk = true := by decide +kernel
  cases ended : (read.answered contractPayload.enveloped).result with
  | ok a => exact ⟨a, rfl⟩
  | error failure =>
    rw [ended] at ok
    cases ok

end Shaped
end GatewayClient
