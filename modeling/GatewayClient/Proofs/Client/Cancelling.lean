import GatewayClient.Proofs.Client.Composition
import GatewayClient.Proofs.Program.Heeding

/-!
# How calls are cancelled

A call that watches the event heeds it in every round (`Call.Rounds.heeds`), and ends as cancelled
if it got a signal and only then (`Call.Rounds.signals_eq`). So does every operation that is made of
calls (`Action.MadeOf.heeds`, `Action.MadeOf.attends`).

**An answer that decides is used** (`Action.MadeOf.unsignalled`): a single call whose last answer
leaves nothing to ask ends without a signal, whenever the event was set.
-/

set_option autoImplicit false

namespace GatewayClient

variable {τ α : Type}

/-! ## Warnings -/

namespace Log

variable {log : Log τ}

/-- A log of warnings has nothing in it that can be noticed. -/
theorem acts_of_warns (warns : ∀ e ∈ log, e.Warns) : log.acts = [] := by
  refine List.filter_eq_nil_iff.mpr fun e mem => ?_
  obtain ⟨warning, rfl⟩ := warns e mem
  exact Bool.false_ne_true

/-- A log of warnings has no requests. -/
theorem sent_of_warns (warns : ∀ e ∈ log, e.Warns) : log.sent = [] := by
  refine List.filterMap_eq_nil_iff.mpr fun e mem => ?_
  obtain ⟨warning, rfl⟩ := warns e mem
  rfl

theorem readings_of_warns (warns : ∀ e ∈ log, e.Warns) : log.readings = [] := by
  refine List.filterMap_eq_nil_iff.mpr fun e mem => ?_
  obtain ⟨warning, rfl⟩ := warns e mem
  rfl

theorem signals_of_warns (warns : ∀ e ∈ log, e.Warns) : log.signals = false := by
  refine signals_eq_false fun e mem => ?_
  obtain ⟨warning, rfl⟩ := warns e mem
  rfl

end Log

variable [TimeScale τ]

/-! ## A call -/

namespace Call

variable {c : Call τ} {started : τ} {made : Nat} {log : Log τ}
variable {r : Except (Failure τ) Json.Fields}

/-- A request that is watched follows a look. -/
theorem heeds_asked (watched : c.watching = true) (outcome : Outcome) :
    Log.Heeds false (c.asked outcome) := by
  have looked : c.asked outcome = [.cancelled false, .sent c.request (some outcome)] := by
    rw [asked, watched]
    rfl
  rw [looked]
  exact .cancelled (.sent (.nil _))

@[simp] theorem signals_asked (outcome : Outcome) : (c.asked outcome).signals = false := by
  unfold asked Action.lookLog
  cases c.watching <;> rfl

@[simp] theorem signals_waitLog (made : Nat) (e : ApiError τ) (chance wait : τ) :
    (c.waitLog made e chance wait).signals = false := by
  rw [waitLog, Log.signals_append, RetryPolicy.signals_drawLog]
  rfl

/-- A call that watches the event heeds it in every round. -/
theorem Rounds.heeds (h : c.Rounds started made log r) (watched : c.watching = true) :
    Log.Heeds false log := by
  have waits : ∀ {made : Nat} {e : ApiError τ} {chance wait : τ},
      Log.Heeds false (c.waitLog made e chance wait) := .of_quiet (acts_waitLog _ _ _ _)
  have rests : ∀ {delay : τ} {pause : Log τ} {full : Bool},
      Action.Paused delay c.watching pause full → Log.Heeds false pause := by
    intro delay pause full paused
    rw [watched] at paused
    exact paused.heeds
  induction h with
  | stopped _ => exact .cancelled (.nil _)
  | abandoned _ => exact .cancelled (.sent (.nil _))
  | answered _ | refused _ _ => exact heeds_asked watched _
  | gaveUp _ _ | overflowed _ _ _ => exact (heeds_asked watched _).append (.clock (.nil _))
  | interrupted _ _ paused =>
    exact (heeds_asked watched _).append (.clock (waits.append (rests paused)))
  | again _ _ paused _ ih =>
    exact (heeds_asked watched _).append (.clock ((waits.append (rests paused)).append ih))

/-- A call ends as cancelled if it got a signal, and only then. -/
theorem Rounds.signals_eq (h : c.Rounds started made log r) :
    log.signals = Action.cancels (fun _ => false) r := by
  induction h with
  | stopped _ | abandoned _ => rfl
  | answered _ => exact signals_asked _
  | refused failed _ =>
    have classified := Outcome.kind_payload_ne_cancelled failed
    rw [signals_asked]
    exact (beq_eq_false_iff_ne.mpr classified).symm
  | gaveUp _ _ | overflowed _ _ _ =>
    rw [Log.signals_append, signals_asked]
    rfl
  | interrupted _ _ paused =>
    simp only [Log.signals_append, signals_asked, Log.signals_cons, signals_waitLog,
      paused.signals_eq, Event.signals]
    rfl
  | again _ _ paused _ ih =>
    simp only [Log.signals_append, signals_asked, Log.signals_cons, signals_waitLog,
      paused.signals_eq, Event.signals, ih]
    rfl

/-- A call that watches the event heeds it. -/
theorem heeds_run (watched : c.watching = true) : c.run.Heeds := by
  intro log r traces
  obtain ⟨started, rest, rfl, rounds⟩ := rounds_of_traces_run traces
  exact .clock (rounds.heeds watched)

/-- A call that does not watch the event gets no signals. -/
theorem Rounds.watched (h : c.Rounds started made log r) (signalled : log.signals = true) :
    c.watching = true := by
  have cut : ∀ {delay : τ} {pause : Log τ} {full : Bool},
      Action.Paused delay c.watching pause full → full = false → c.watching = true := by
    intro delay pause full paused short
    generalize c.watching = watching at paused
    cases paused with
    | unwatched => cases short
    | stopped | watched _ => rfl
  induction h with
  | stopped watched | abandoned watched => exact watched
  | answered _ | refused _ _ | gaveUp _ _ | overflowed _ _ _ => simp at signalled
  | interrupted _ _ paused => exact cut paused rfl
  | again _ _ paused _ ih => exact ih (by simpa [paused.signals_eq] using signalled)

/-- A call ends as cancelled exactly if it watches the event and got a signal. -/
theorem attends_run : Action.Attends c.watching c.run fun _ => false where
  signals_eq log r traces := by
    obtain ⟨started, rest, rfl, rounds⟩ := rounds_of_traces_run traces
    exact rounds.signals_eq
  watched log r traces signalled := by
    obtain ⟨started, rest, rfl, rounds⟩ := rounds_of_traces_run traces
    exact rounds.watched signalled

end Call

/-! ## Answers that decide -/

/-- After this outcome of the last of some requests, a call under a policy has nothing left to ask:
there is a payload, or a failure that lasts, or the policy allows no further attempt. -/
def Outcome.Decisive (p : RetryPolicy τ) (made : Nat) (elapsed : τ) (outcome : Outcome) : Prop :=
  ∀ e : ApiError τ, outcome.payload = .error e → e.retryable = true →
    p.isSpent (made - 1) elapsed = true

/-- A call whose last answer decides ends by that answer, so it got no signal. -/
theorem Call.unsignalled {c : Call τ} {log : Log τ} {r : Except (Failure τ) Json.Fields}
    (traces : c.run.Traces log r) {outcome : Outcome} {first last : τ}
    (answered : log.answer? = some outcome) (head : log.readings.head? = some first)
    (final : log.readings.getLast? = some last)
    (decisive : outcome.Decisive c.policy log.sent.length (last - first)) :
    log.signals = false := by
  obtain ⟨began, ended, began?, ended?, decided⟩ := verdict_of_traces traces
  cases head.symm.trans began?
  cases final.symm.trans ended?
  rw [attends_run.signals_eq traces, decided first, answered]
  cases payload : (outcome.payload : Except (ApiError τ) Json.Fields) with
  | ok data =>
    rw [verdict_answered payload]
    rfl
  | error e =>
    have classified := Outcome.kind_payload_ne_cancelled payload
    cases final : e.retryable && c.idempotent with
    | false =>
      rw [verdict_refused payload final]
      exact beq_eq_false_iff_ne.mpr classified
    | true =>
      obtain ⟨retryable, idempotent⟩ := Bool.and_eq_true_iff.mp final
      have spent := decisive e payload retryable
      rw [verdict_retries ⟨payload, retryable, idempotent⟩, RetryPolicy.nextDelay_eq_none.mpr spent]
      rfl

/-! ## Chains of calls -/

namespace Action

variable {p : RetryPolicy τ} {watching : Bool} {n : Nat} {x : Action τ α}

omit [TimeScale τ] in
/-- What is on the side begins nothing that the event could stop. -/
theorem Aside.heeds (h : x.Aside) : x.Heeds := by
  refine .of_ensures (h.mono (fun e warns => ?_) (fun _ h => h) fun _ h => h)
  obtain ⟨warning, rfl⟩ := warns
  exact Bool.false_ne_true

omit [TimeScale τ] in
theorem Aside.attends (h : x.Aside) : Attends watching x fun _ => false := by
  refine .of_ensures (h.mono (fun e warns => ?_) (fun _ lasts => lasts.isCancelled) fun _ _ => rfl)
  obtain ⟨warning, rfl⟩ := warns
  rfl

namespace MadeOf

/-- What is made of calls that watch the event heeds it. -/
theorem heeds (h : MadeOf p true n x) : x.Heeds := by
  induction h with
  | aside quiet => exact quiet.heeds
  | call under => exact Call.heeds_run under.watching
  | bind _ _ first next => exact first.bind next

/-- What is made of calls ends as cancelled if one of them does. -/
theorem attends (h : MadeOf p watching n x) : Attends watching x fun _ => false := by
  induction h with
  | aside quiet => exact quiet.attends
  | call under => exact under.watching ▸ Call.attends_run
  | bind _ _ first next => exact first.followed next

/-- What is made of no calls leaves nothing but warnings. -/
theorem quiet (h : MadeOf p watching n x) (none : n = 0) {log : Log τ} {r : Except (Failure τ) α}
    (traces : x.Traces log r) : ∀ e ∈ log, e.Warns := by
  induction h generalizing log with
  | aside quiet => exact quiet.quiet traces
  | call _ => cases none
  | bind _ _ first next =>
    rcases traces_bind traces with ⟨failure, rfl, cut⟩ | ⟨began, a, rest, rfl, went, followed⟩
    · exact first (by omega) cut
    · exact List.forall_mem_append.mpr ⟨first (by omega) went, next a (by omega) followed⟩

/-- A single call whose last answer decides got no signal. What is on the side of the call leaves no
requests and no readings, so the last answer of the whole is the one of the call. -/
theorem unsignalled (h : MadeOf p watching n x) (single : n ≤ 1) {log : Log τ}
    {r : Except (Failure τ) α} (traces : x.Traces log r) {outcome : Outcome} {first last : τ}
    (answered : log.answer? = some outcome) (head : log.readings.head? = some first)
    (final : log.readings.getLast? = some last)
    (decisive : outcome.Decisive p log.sent.length (last - first)) : log.signals = false := by
  induction h generalizing log with
  | aside quiet => exact Log.signals_of_warns (quiet.quiet traces)
  | call under => exact Call.unsignalled traces answered head final (under.policy ▸ decisive)
  | @bind _ _ m n _ _ made rest ihFirst ihNext =>
    rcases traces_bind traces with ⟨failure, rfl, cut⟩ | ⟨began, a, more, rfl, went, followed⟩
    · exact ihFirst (by omega) cut answered head final decisive
    · rw [Log.answer?, Log.sent_append] at answered
      rw [Log.readings_append] at head final
      rw [Log.sent_append] at decisive
      rw [Log.signals_append]
      by_cases none : m = 0
      · have quiet := made.quiet none went
        rw [Log.sent_of_warns quiet] at answered decisive
        rw [Log.readings_of_warns quiet] at head final
        rw [Log.signals_of_warns quiet, Bool.false_or]
        exact ihNext a (by omega) followed answered head final decisive
      · have quiet := (rest a).quiet (by omega) followed
        rw [Log.sent_of_warns quiet, List.append_nil] at answered decisive
        rw [Log.readings_of_warns quiet, List.append_nil] at head final
        rw [Log.signals_of_warns quiet, Bool.or_false]
        exact ihFirst (by omega) went answered head final decisive

end MadeOf
end Action
end GatewayClient
