import GatewayClient.Proofs.Envelope.Reported
import GatewayClient.Proofs.Poll.Law
import GatewayClient.Proofs.Text.Mention

/-!
# What the node does not know

Only the node can say that it does not know what it was asked for, and `Response.SaysNotFound` tells
in which answers it does. A page that says so in front of the node is no such answer, whatever its
text.

**An error says not found exactly if the answer does** (`Outcome.isNotFound_payload`). That carries
over to what a call raises in the end (`Call.isNotFound_verdict`), and to what a poll takes for a
transaction that is still to come (`Poll.isNotFound_yield`): a poll ends with the first answer that
fails for good and does not say so (`Poll.stops_at_refusal`).
-/

set_option autoImplicit false

namespace GatewayClient

/-! ## What says not found -/

/-- The node answers, with the fields of an object, that it does not know what it was asked for:
their `error` mentions it in whatever case, it is no throttling, and nothing says that the answer is
a success. -/
structure Response.SaysNotFound (r : Response) (fields : Json.Fields) (error : Text) : Prop where
  served : r.status < 500
  unlimited : r.status ≠ 429
  body : r.json = .ok (.obj fields)
  said : fields.get? "error" = some (.str error)
  unknown : ∃ (before : List CodePoint) (phrase : List Char) (after : List CodePoint),
    error.stripped.points = before ++ phrase.map .char ++ after ∧
      phrase.map Char.toLower = "not found".toList
  unthrottled : (Envelope.Report.ofBody (some (.obj fields))).throttles = false
  failed : 400 ≤ r.status ∨ fields.get? "code" ≠ some (.str Envelope.successCode)

/-- The outcome is an answer in which the node says that it does not know what it was asked for. -/
def Outcome.SaysNotFound : Outcome → Prop
  | .response r => ∃ fields error, r.SaysNotFound fields error
  | .failure _ => False

/-- The body of a response is an object exactly if it is read as one. -/
theorem Response.body?_eq_obj {r : Response} {fields : Json.Fields} :
    r.body? = some (.obj fields) ↔ r.json = .ok (.obj fields) := by
  unfold body?
  split <;> simp_all

/-! ## Responses -/

namespace Envelope

namespace Report

variable {fields : Json.Fields}

/-- The message is the text of `error` without the blanks around it. -/
theorem message_ofBody {error : Text} (said : fields.get? "error" = some (.str error)) :
    (ofBody (some (.obj fields))).message = error.stripped := by
  simp [ofBody, said, Json.text?]

/-- Where a report has a message, the body has a text of `error`. -/
theorem exists_error (said : (ofBody (some (.obj fields))).message ≠ "") :
    ∃ error : Text, fields.get? "error" = some (.str error) := by
  cases found : (Json.Fields.get? fields "error").bind Json.text? with
  | none =>
    have silent : (ofBody (some (.obj fields))).message = "" := by
      simp only [ofBody, found]
      decide +kernel
    exact absurd silent said
  | some error =>
    obtain ⟨value, found, text⟩ := Option.bind_eq_some_iff.mp found
    cases value with
    | str s => exact ⟨s, found⟩
    | null | bool _ | num _ | arr _ | obj _ => cases text

/-- The code of a report is the text of `code`. -/
theorem code_ofBody {code : Text} (filled : code ≠ "") :
    (ofBody (some (.obj fields))).code = some code ↔ fields.get? "code" = some (.str code) := by
  cases found : Json.Fields.get? fields "code" with
  | none => simp [ofBody, found]
  | some value =>
    cases value with
    | str s =>
      have kept : (ofBody (some (.obj fields))).code = if s = "" then none else some s := by
        simp only [ofBody, found, Json.text?, Option.bind_some, Option.filter_some,
          Bool.not_eq_true', ← Bool.not_eq_true, Text.isEmpty_iff, ite_not]
      rw [kept]
      by_cases empty : s = ""
      · rw [if_pos empty, empty]
        simp [Ne.symm filled]
      · rw [if_neg empty]
        simp
    | null | bool _ | num _ | arr _ | obj _ => simp [ofBody, found, Json.text?]

end Report

variable {τ : Type} [TimeScale τ] {r : Response}

/-- The error of a response says not found where the node rejects the request and mentions it. -/
theorem isNotFound_iff_rejects : (classifyResponse r : ApiError τ).isNotFound = true ↔
    Rejects r ∧ Text.mentions r.report.message "not found" = true := by
  constructor
  · intro notFound
    simp only [ApiError.isNotFound, Bool.and_eq_true, beq_iff_eq] at notFound
    obtain ⟨⟨-, marked⟩, mentioned⟩ := notFound
    have rejects := nodeReported_iff.mp marked
    rw [rejects.classifyResponse_eq] at mentioned
    exact ⟨rejects, mentioned⟩
  · rintro ⟨rejects, mentioned⟩
    rw [rejects.classifyResponse_eq]
    exact mentioned

/-- The error of a response says not found exactly if the response does. -/
theorem isNotFound_classifyResponse : (classifyResponse r : ApiError τ).isNotFound = true ↔
    (Outcome.response r).SaysNotFound := by
  rw [isNotFound_iff_rejects, Text.mentions_iff (by decide)]
  constructor
  · rintro ⟨⟨said, unlimited, served, failed⟩, unknown⟩
    obtain ⟨fields, body⟩ := Report.ofBody_of_message said
    have report : r.report = Report.ofBody (some (.obj fields)) := congrArg Report.ofBody body
    rw [report] at said unlimited failed unknown
    obtain ⟨error, found⟩ := Report.exists_error said
    rw [Report.message_ofBody found] at unknown
    obtain ⟨few, unthrottled⟩ := not_or.mp unlimited
    exact ⟨fields, error,
      { served
        unlimited := few
        body := Response.body?_eq_obj.mp body
        said := found
        unknown
        unthrottled := Bool.eq_false_iff.mpr unthrottled
        failed := failed.imp_right (mt (Report.code_ofBody (by decide)).mpr) }⟩
  · rintro ⟨fields, error, h⟩
    have report : r.report = Report.ofBody (some (.obj fields)) :=
      congrArg Report.ofBody (Response.body?_eq_obj.mpr h.body)
    have message : r.report.message = error.stripped := report ▸ Report.message_ofBody h.said
    refine ⟨⟨fun silent => ?_, not_or.mpr ⟨h.unlimited, ?_⟩, h.served, ?_⟩, message ▸ h.unknown⟩
    · obtain ⟨before, phrase, after, text, folds⟩ := h.unknown
      rw [← message, silent] at text
      have empty : phrase = [] := by simp_all
      rw [empty] at folds
      exact absurd folds (by decide)
    · rw [report, h.unthrottled]
      exact Bool.false_ne_true
    · rw [report]
      exact h.failed.imp_right (mt (Report.code_ofBody (by decide)).mp)

/-- The error that a response raises says not found exactly if the response does. Where the data of
an envelope is no object, neither does. -/
theorem isNotFound_unwrap {e : ApiError τ} (failed : unwrap r = .error e) :
    e.isNotFound = true ↔ (Outcome.response r).SaysNotFound := by
  rw [← isNotFound_classifyResponse (τ := τ)]
  by_cases carries : ∃ fields, Carries r fields
  · obtain ⟨fields, carries⟩ := carries
    have unknown : (classifyResponse r : ApiError τ).kind = .decode := by
      rw [carries.classifyResponse_eq]
    rcases eq_of_unwrap_eq_error failed with rfl | rfl <;> simp [ApiError.isNotFound, unknown]
  · rw [unwrap_of_not_carries carries] at failed
    cases failed
    rfl

end Envelope

variable {τ : Type} [TimeScale τ]

/-! ## Outcomes -/

/-- The error of an outcome says not found exactly if the outcome does. -/
theorem Outcome.isNotFound_payload {outcome : Outcome} {e : ApiError τ}
    (failed : outcome.payload = .error e) : e.isNotFound = true ↔ outcome.SaysNotFound := by
  cases outcome with
  | response r => exact Envelope.isNotFound_unwrap failed
  | failure f =>
    cases failed
    simp [ApiError.isNotFound, Envelope.classifyFailure, SaysNotFound]

/-- What says not found gives no payload. -/
theorem Outcome.error_of_saysNotFound {outcome : Outcome} (h : outcome.SaysNotFound) :
    ∃ e : ApiError τ, outcome.payload = .error e := by
  cases outcome with
  | failure f => exact h.elim
  | response r =>
    cases payload : (Outcome.response r).payload (τ := τ) with
    | error e => exact ⟨e, rfl⟩
    | ok data =>
      obtain ⟨fields, carries⟩ := Envelope.carries_of_unwrap payload
      have notFound := Envelope.isNotFound_classifyResponse (τ := τ).mpr h
      rw [carries.classifyResponse_eq] at notFound
      exact absurd notFound Bool.false_ne_true

omit [TimeScale τ] in
/-- Only a fatal error says not found. -/
theorem ApiError.isNotFound_of_kind_ne {e : ApiError τ} (other : e.kind ≠ .fatal) :
    e.isNotFound = false := by
  simp [isNotFound, other]

/-- What may pass does not say not found. -/
theorem Outcome.not_saysNotFound_of_retryable {outcome : Outcome} {e : ApiError τ}
    (failed : outcome.payload = .error e) (retryable : e.retryable = true) :
    ¬ outcome.SaysNotFound := by
  rw [← isNotFound_payload failed, ApiError.isNotFound_of_kind_ne]
  · exact Bool.false_ne_true
  · intro fatal
    rw [ApiError.retryable, fatal] at retryable
    cases retryable

/-! ## Calls -/

namespace Call

variable {c : Call τ}

/-- What a call raises says not found exactly if its last answer does. -/
theorem isNotFound_verdict {made : Nat} {last : Option Outcome} {elapsed chance : τ}
    {e : ApiError τ} (raised : c.verdict made last elapsed chance = .error (.api e)) :
    e.isNotFound = true ↔ ∃ outcome, last = some outcome ∧ outcome.SaysNotFound := by
  cases last with
  | none =>
    cases raised
    simp [ApiError.isNotFound, cancelledError]
  | some outcome =>
    cases payload : (outcome.payload : Except (ApiError τ) Json.Fields) with
    | ok data =>
      rw [verdict_answered payload] at raised
      cases raised
    | error failure =>
      simp only [Option.some.injEq, exists_eq_left']
      cases final : failure.retryable && c.idempotent with
      | false =>
        rw [verdict_refused payload final] at raised
        cases raised
        exact Outcome.isNotFound_payload (e := failure) payload
      | true =>
        obtain ⟨retryable, idempotent⟩ := Bool.and_eq_true_iff.mp final
        have other : e.kind ≠ .fatal := by
          rw [verdict_retries ⟨payload, retryable, idempotent⟩] at raised
          split at raised
          next => cases raised; exact nofun
          next => cases raised; exact nofun
          next => cases raised
        rw [ApiError.isNotFound_of_kind_ne other]
        exact iff_of_false Bool.false_ne_true
          (Outcome.not_saysNotFound_of_retryable payload retryable)

end Call

/-- What a call of an operation raises says not found exactly if its last answer does. A call that
resolves to no request raises something else. -/
theorem Client.isNotFound_call {σ : Type} (w : World σ τ) (c : Client τ) (op : Operation)
    (values : PathValues) (query : Query) (body : Option Bytes) (idempotent : Bool)
    (o : CallOptions τ) (s : σ) {e : ApiError τ}
    (raised : ((c.call op values query body idempotent o).runIn w s).result = .error (.api e)) :
    e.isNotFound = true ↔ ∃ outcome,
      ((c.call op values query body idempotent o).runIn w s).events.answer? = some outcome ∧
        outcome.SaysNotFound := by
  have traces := Action.traces_runIn (c.call op values query body idempotent o) w s
  generalize (c.call op values query body idempotent o).runIn w s = ran at traces raised
  cases resolved : c.config.catalog.route op values query with
  | ok route =>
    rw [Client.call_eq_run resolved] at traces
    obtain ⟨first, last, -, -, decided⟩ := Call.verdict_of_traces traces
    exact Call.isNotFound_verdict ((decided first).symm.trans raised)
  | error fault =>
    rw [Client.call, resolved] at traces
    obtain ⟨logged, failed⟩ := Action.traces_fail traces
    obtain same := Except.error.inj (raised.symm.trans failed)
    have fatal : e.isNotFound = false := by
      rcases Catalog.toFailure_of_route (τ := τ) resolved with ⟨message, api⟩ | ⟨_, _, f, _, rfl⟩
      · cases same.trans api
        rfl
      · cases f <;> cases same
    rw [logged, fatal]
    simp [Log.answer?]

/-! ## Polls -/

namespace Poll

variable {p : Poll τ} {outcome : Outcome}

/-- A poll takes an answer for one about a transaction that is still to come exactly if the answer
says not found. -/
theorem isNotFound_yield :
    (∃ e, p.yield outcome = .error e ∧ e.isNotFound = true) ↔ outcome.SaysNotFound := by
  cases payload : (outcome.payload : Except (ApiError τ) Json.Fields) with
  | ok data =>
    rw [yield_of_payload payload]
    refine iff_of_false ?_ fun unknown => ?_
    · rintro ⟨e, failed, notFound⟩
      rw [ApiError.isNotFound_of_kind_ne (kind_decode failed ▸ nofun)] at notFound
      cases notFound
    · obtain ⟨e, failed⟩ := Outcome.error_of_saysNotFound (τ := τ) unknown
      rw [payload] at failed
      cases failed
  | error e =>
    cases retryable : e.retryable with
    | true =>
      rw [yield_of_retryable payload retryable]
      refine iff_of_false ?_ (Outcome.not_saysNotFound_of_retryable payload retryable)
      rintro ⟨_, eq, notFound⟩
      cases eq
      exact Bool.false_ne_true notFound
    | false =>
      rw [yield_of_refused payload retryable, ← Outcome.isNotFound_payload payload]
      simp only [Except.error.injEq, exists_eq_left']
      rfl

/-- An answer that fails for good, and is not the node's own, ends a poll. -/
theorem decides_of_refused {e : ApiError τ} (failed : outcome.payload = .error e)
    (final : e.retryable = false) (known : ¬ outcome.SaysNotFound) :
    decides (p.yield outcome) = some .errored := by
  have timely : e.kind ≠ .timedOut := Outcome.kind_payload_ne_timedOut failed
  have other : e.isNotFound = false :=
    Bool.eq_false_iff.mpr (mt (Outcome.isNotFound_payload failed).mp known)
  refine decides_eq_errored.mpr ⟨e.counting 1, yield_of_refused failed final, other, ?_⟩
  have same : (e.counting 1).mayPass = (e.retryable || (e.kind == .timedOut &&
    e.lastError.any (·.retryable))) := rfl
  rw [same, final, beq_false_of_ne timely]
  rfl

/-- A poll stops at the first such answer, and ends with its error. -/
theorem stops_at_refusal {σ : Type} {w : World σ τ} (event : CancelEvent w) (p : Poll τ) (s : σ)
    {before after : List Outcome}
    (answers : (p.run.runIn w s).events.answers = before ++ outcome :: after) {e : ApiError τ}
    (failed : outcome.payload = .error e) (final : e.retryable = false)
    (known : ¬ outcome.SaysNotFound) :
    after = [] ∧ ∃ result, (p.run.runIn w s).result = .ok result ∧ result.outcome = .errored ∧
      result.error = some (e.counting 1) := by
  by_cases filled : p.hash = ""
  · have traces := Action.traces_runIn p.run w s
    generalize p.run.runIn w s = ran at traces answers
    unfold run at traces
    rw [Client.require_of_empty filled] at traces
    obtain ⟨silent, -⟩ := Action.traces_refuse traces
    rw [silent] at answers
    have none : [] = before ++ outcome :: after := answers
    simp at none
  · obtain ⟨started, rest, logged, rounds, -⟩ := rounds_of_runIn event filled s
    have split : rest.answers = before ++ outcome :: after := by
      rw [logged] at answers
      exact answers
    obtain ⟨rfl, result, ok, errored⟩ :=
      rounds.ends_of_decides split (decides_of_refused failed final known)
    refine ⟨rfl, result, ok, errored, ?_⟩
    rw [ok] at rounds
    rw [rounds.error_eq, split]
    simp [yield_of_refused failed final, error?]

end Poll

/-- Not found is what the node itself says, and nothing else. The error of an outcome says it
exactly if the outcome does, and so does what a call raises, by its last answer. A poll takes the
answers that say so, and no others, for ones about a transaction that is still to come: any other
answer that fails for good ends it. -/
theorem notFound_law {σ : Type} (w : World σ τ) (event : CancelEvent w) (s : σ) :
    (∀ outcome : Outcome, (∃ e : ApiError τ, outcome.payload = .error e ∧ e.isNotFound = true) ↔
      outcome.SaysNotFound) ∧
    (∀ (c : Client τ) (op : Operation) (values : PathValues) (query : Query) (body : Option Bytes)
      (idempotent : Bool) (o : CallOptions τ) (e : ApiError τ),
      let r := (c.call op values query body idempotent o).runIn w s
      r.result = .error (.api e) → (e.isNotFound = true ↔
        ∃ outcome, r.events.answer? = some outcome ∧ outcome.SaysNotFound)) ∧
    (∀ p : Poll τ,
      let r := p.run.runIn w s
      (∀ outcome, (∃ e, p.yield outcome = .error e ∧ e.isNotFound = true) ↔
        outcome.SaysNotFound) ∧
      ∀ before outcome after (e : ApiError τ), r.events.answers = before ++ outcome :: after →
        outcome.payload = .error e → e.retryable = false → ¬ outcome.SaysNotFound →
          after = [] ∧ ∃ result, r.result = .ok result ∧ result.outcome = .errored ∧
            result.error = some (e.counting 1)) := by
  refine ⟨fun outcome => ⟨?_, fun unknown => ?_⟩, ?_, fun p => ⟨fun _ => p.isNotFound_yield, ?_⟩⟩
  · rintro ⟨e, failed, notFound⟩
    exact (Outcome.isNotFound_payload failed).mp notFound
  · obtain ⟨e, failed⟩ := Outcome.error_of_saysNotFound (τ := τ) unknown
    exact ⟨e, failed, (Outcome.isNotFound_payload failed).mpr unknown⟩
  · intro c op values query body idempotent o e r raised
    exact c.isNotFound_call w op values query body idempotent o s raised
  · intro before outcome after e answers failed final known
    exact p.stops_at_refusal event s answers failed final known

/-- A page of a server in front of the node. -/
def strayPage : Response where
  status := 404
  content := Bytes.ofText "404 page not found"

/-- A poll that meets such a page ends there. -/
theorem notFound_law_stray :
    let poll : Poll Float := { client := .onThisMachine, policy := defaultPollPolicy, hash := "ab" }
    let r := poll.run.runIn Script.world
      { now := 0.0, replies := [⟨some (.response strayPage), 0.25, false⟩] }
    ¬ (Outcome.response strayPage).SaysNotFound ∧ r.events.answers = [.response strayPage] ∧
      ∃ result, r.result = .ok result ∧ result.outcome = .errored := by
  intro poll r
  have failed : (Outcome.response strayPage).payload =
      .error (Envelope.classifyResponse strayPage : ApiError Float) := by
    rw [Outcome.payload, Envelope.unwrap]
    exact if_pos (by decide)
  have known : ¬ (Outcome.response strayPage).SaysNotFound := by
    rintro ⟨fields, error, h⟩
    have bodiless : strayPage.body? = none := by decide +kernel
    rw [Response.body?_eq_obj.mpr h.body] at bodiless
    cases bodiless
  have answers : r.events.answers = [.response strayPage] := by decide +kernel
  have law := notFound_law Script.world Script.cancelEvent
    { now := 0.0, replies := [⟨some (.response strayPage), 0.25, false⟩] }
  obtain ⟨-, result, ended, errored, -⟩ :=
    (law.2.2 poll).2 [] _ [] _ answers failed (by decide +kernel) known
  exact ⟨known, answers, result, ended, errored⟩

end GatewayClient
