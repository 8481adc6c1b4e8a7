import GatewayClient.Proofs.Cancellation
import Mathlib.Data.List.DropRight

/-!
# What errors count

An error of the gateway counts requests. Within a call it counts all of them, and a call that fails
was answered with no payload. What goes wrong with a payload afterwards counts none, and where an
operation makes several calls, each of them starts to count anew.

**An error counts the requests since the last payload** (`Command.attempts_law`). So it counts the
requests of its operation exactly if none of them was answered with a payload.
-/

set_option autoImplicit false

namespace GatewayClient

variable {σ τ α : Type} [TimeScale τ]

/-! ## Requests without a payload -/

namespace Log

variable {log : Log τ}

/-- The request was answered with a payload. -/
def yielded (call : Request τ × Option Outcome) : Bool :=
  call.2.any fun outcome => (outcome.payload : Except (ApiError τ) Json.Fields).isOk

/-- The requests that were made after the last one that was answered with a payload. -/
def fruitless (log : Log τ) : List (Request τ × Option Outcome) :=
  log.sent.rtakeWhile fun call => !yielded call

/-- A request whose answer is an error yielded no payload. -/
theorem yielded_of_failed {request : Request τ} {outcome : Outcome} {e : ApiError τ}
    (failed : outcome.payload = .error e) : yielded (request, some outcome) = false := by
  simp [yielded, failed, Except.isOk, Except.toBool]

/-- A request that was answered with a payload yielded one. -/
theorem yielded_of_payload {request : Request τ} {outcome : Outcome} {data : Json.Fields}
    (payload : (outcome.payload : Except (ApiError τ) Json.Fields) = .ok data) :
    yielded (request, some outcome) = true := by
  simp [yielded, payload, Except.isOk, Except.toBool]

/-- Without a request there is none to count. -/
theorem fruitless_of_sent_nil (silent : log.sent = []) : log.fruitless = [] := by
  simp [fruitless, silent]

/-- All requests were fruitless exactly if none was answered with a payload. -/
theorem length_fruitless_eq_iff :
    log.fruitless.length = log.sent.length ↔ ∀ call ∈ log.sent, yielded call = false := by
  have part : log.fruitless <:+ log.sent := List.rtakeWhile_suffix _ _
  have same : log.fruitless.length = log.sent.length ↔ log.fruitless = log.sent :=
    ⟨part.eq_of_length, congrArg List.length⟩
  rw [same, fruitless, List.rtakeWhile_eq_self_iff]
  simp

/-- After a payload the count starts anew. -/
theorem fruitless_append (settled : log.fruitless = []) (more : Log τ) :
    fruitless (log ++ more) = more.fruitless := by
  unfold fruitless List.rtakeWhile at settled ⊢
  rw [sent_append, List.reverse_append, List.takeWhile_append]
  split
  next whole =>
    rw [List.reverse_append, settled, List.nil_append,
      (List.takeWhile_prefix _).eq_of_length whole]
  next => rfl

/-- The result of an operation goes with its log: an error of the gateway counts the fruitless
requests, and there are none where the operation has a result. -/
def Tallies (log : Log τ) : Except (Failure τ) α → Prop
  | .ok _ => log.fruitless = []
  | .error (.api e) => e.attempts = log.fruitless.length
  | .error _ => True

end Log

/-! ## A call -/

namespace Call

variable {c : Call τ} {started : τ} {made : Nat} {log : Log τ}
  {r : Except (Failure τ) Json.Fields}

/-- No request of a call that fails was answered with a payload. -/
theorem Rounds.yielded_of_error (h : c.Rounds started made log r) {failure : Failure τ}
    (ended : r = .error failure) : ∀ call ∈ log.sent, Log.yielded call = false := by
  induction h with
  | stopped _ => exact nofun
  | abandoned _ => exact List.forall_mem_singleton.mpr rfl
  | answered _ => cases ended
  | refused failed _ =>
    rw [sent_asked]
    exact List.forall_mem_singleton.mpr (Log.yielded_of_failed failed)
  | gaveUp retries _ | overflowed retries _ _ =>
    rw [Log.sent_append, sent_asked]
    exact List.forall_mem_singleton.mpr (Log.yielded_of_failed retries.failed)
  | interrupted retries _ paused =>
    rw [sent_interrupted paused]
    exact List.forall_mem_singleton.mpr (Log.yielded_of_failed retries.failed)
  | again retries _ paused _ ih =>
    rw [sent_again paused]
    exact List.forall_mem_cons.mpr ⟨Log.yielded_of_failed retries.failed, ih ended⟩

/-- The last request of a call that has a result was answered with a payload. -/
theorem Rounds.last_of_ok (h : c.Rounds started made log r) {data : Json.Fields}
    (ended : r = .ok data) :
    ∃ before call, log.sent = before ++ [call] ∧ Log.yielded call = true := by
  induction h with
  | stopped _ | abandoned _ | refused _ _ | gaveUp _ _ | overflowed _ _ _ | interrupted _ _ _ =>
    cases ended
  | answered payload => exact ⟨[], _, sent_asked _, Log.yielded_of_payload payload⟩
  | @again _ outcome _ _ _ _ _ _ _ _ _ paused _ ih =>
    obtain ⟨before, call, sent, payload⟩ := ih ended
    refine ⟨(c.request, some outcome) :: before, call, ?_, payload⟩
    rw [sent_again paused, sent]
    rfl

/-- Within a call, an error counts all requests. -/
theorem tallies_of_traces (h : c.run.Traces log r) : log.Tallies r := by
  obtain ⟨first, last, -, -, decided⟩ := verdict_of_traces h
  obtain ⟨started, rest, rfl, rounds⟩ := rounds_of_traces_run h
  cases ended : r with
  | ok data =>
    obtain ⟨before, call, sent, payload⟩ := rounds.last_of_ok ended
    have settled : rest.fruitless = [] := by simp [Log.fruitless, sent, payload]
    exact settled
  | error failure =>
    cases failure with
    | api e =>
      have counts := attempts_of_verdict ((decided first).symm.trans ended)
      have all := Log.length_fruitless_eq_iff.mpr (rounds.yielded_of_error ended)
      exact counts.trans (congrArg Nat.cast all.symm)
    | argument _ | unencodable _ | overflow _ | undecodable _ => trivial

end Call

/-! ## Chains of calls -/

namespace Action

variable {p : RetryPolicy τ} {watching : Bool} {n : Nat} {x : Action τ α} {log : Log τ}
  {r : Except (Failure τ) α}

/-- An error of what is made of calls counts what its last call counts. What is on the side counts
nothing, and asks for nothing. -/
theorem MadeOf.tallies (h : MadeOf p watching n x) (traces : x.Traces log r) : log.Tallies r := by
  induction h generalizing log with
  | aside quiet =>
    have none := Log.fruitless_of_sent_nil (Log.sent_of_warns (quiet.quiet traces))
    have fails := (quiet traces).2
    cases r with
    | ok a => exact none
    | error failure =>
      cases failure with
      | api e =>
        rw [Log.Tallies, none]
        exact fails.1
      | argument _ | unencodable _ | overflow _ | undecodable _ => trivial
  | call _ => exact Call.tallies_of_traces traces
  | bind _ _ first next =>
    rcases traces_bind traces with ⟨failure, rfl, cut⟩ | ⟨began, a, rest, rfl, went, followed⟩
    · have counted := first cut
      cases failure with
      | api e => exact counted
      | argument _ | unencodable _ | overflow _ | undecodable _ => trivial
    · have counted := next a followed
      -- What went before ended with a payload, so the count starts anew with what follows.
      have anew := Log.fruitless_append (first went) rest
      cases r with
      | ok b => exact anew.trans counted
      | error failure =>
        cases failure with
        | api e =>
          rw [Log.Tallies, anew]
          exact counted
        | argument _ | unencodable _ | overflow _ | undecodable _ => trivial

end Action

/-! ## Commands -/

/-- An error of the gateway that a command ends with counts the requests after the last one that was
answered with a payload, whatever went wrong. It counts all requests of the command exactly if none
was answered with a payload. -/
theorem Command.attempts_law (w : World σ τ) (c : Client τ) (o : CallOptions τ)
    (command : Command τ α) (s : σ) :
    let r := (command.run c o).runIn w s
    ∀ e, r.result = .error (.api e) →
      e.attempts = r.events.fruitless.length ∧
      (e.attempts = r.sent.length ↔ ∀ call ∈ r.sent, Log.yielded call = false) := by
  intro r e failed
  have traces : (command.run c o).Traces r.events r.result := Action.traces_runIn _ w s
  rw [failed] at traces
  have counts : e.attempts = r.events.fruitless.length := by
    cases chain : command.calls with
    | some n => exact (command.madeOf c o chain).1.tallies traces
    | none =>
      cases command with
      | read | write | call | sendAndConfirm => cases chain
      | poll hash withResults => exact absurd rfl ((Command.ensures c o _ traces).2.2 rfl e)
      | pause delay =>
        obtain ⟨full, same, -⟩ := Action.traces_pause traces
        cases same
  refine ⟨counts, ?_⟩
  rw [counts, Int.natCast_inj]
  exact Log.length_fruitless_eq_iff

/-! ## An error that counts too little -/

section Uncounted

/-- What the error of a result counts. -/
def counted? : Except (Failure τ) α → Option Int
  | .error (.api e) => some e.attempts
  | _ => none

omit [TimeScale τ] in
/-- Only an error of the gateway counts requests. -/
theorem exists_of_counted? {r : Except (Failure τ) α} {n : Int} (counted : counted? r = some n) :
    ∃ e, r = .error (.api e) ∧ e.attempts = n := by
  unfold counted? at counted
  split at counted
  next e => exact ⟨e, rfl, Option.some_inj.mp counted⟩
  next => cases counted

/-- An account is asked for, and the payload that comes has none. -/
def accountless : Run (Script Float) Float (Except (Failure Float) AccountInfo) :=
  ((Command.read (.account "drt1")).run .onThisMachine {}).runIn Script.world
    { now := 0.0
      replies := [
        { answer := some (.response
            { status := 200
              content := Bytes.ofText
                "\x7b\"data\":\x7b\x7d,\"error\":\"\",\"code\":\"successful\"\x7d" })
          advance := 0.0 }] }

/-- The payload is refused by an error that counts no requests, after one request. -/
theorem counted_accountless :
    counted? accountless.result = some 0 ∧ accountless.sent.length = 1 := by
  decide +kernel

/-- An operation makes a request that its error does not count. -/
theorem Command.uncounted_request :
    (∃ e, accountless.result = .error (.api e) ∧ e.attempts = 0) ∧
      accountless.sent.length = 1 :=
  ⟨exists_of_counted? counted_accountless.1, counted_accountless.2⟩

/-- The request was answered with a payload, and the error counts what came after it. -/
theorem Command.attempts_law_accountless :
    ∃ e, accountless.result = .error (.api e) ∧
      e.attempts = accountless.events.fruitless.length ∧
      ¬ ∀ call ∈ accountless.sent, Log.yielded call = false := by
  obtain ⟨e, failed, none⟩ := exists_of_counted? counted_accountless.1
  obtain ⟨counts, all⟩ := Command.attempts_law Script.world .onThisMachine {}
    (.read (.account "drt1")) { now := 0.0, replies := _ } e failed
  refine ⟨e, failed, counts, fun fruitless => ?_⟩
  have every : e.attempts = accountless.sent.length := all.mpr fruitless
  rw [none, counted_accountless.2] at every
  cases every

end Uncounted
end GatewayClient
