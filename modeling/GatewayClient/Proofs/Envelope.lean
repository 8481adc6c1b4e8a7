import GatewayClient.Client.Basic

/-!
# What an outcome can mean

An outcome of the transport is never an error of the kinds that belong to a whole operation: only
the operation itself can be cancelled or give up.
-/

set_option autoImplicit false

namespace GatewayClient

/-- The kinds after which a request may be repeated. -/
theorem ErrorKind.retryable_iff {kind : ErrorKind} :
    kind.retryable = true ↔ kind ∈ [.transient, .rateLimited, .timeout] := by
  cases kind <;> decide

/-- The kinds that an outcome can mean. -/
def ErrorKind.isClassified : ErrorKind → Bool
  | .timedOut | .cancelled => false
  | _ => true

variable {τ : Type} [TimeScale τ]

/-! ## What a response means -/

namespace Envelope

omit [TimeScale τ] in
/-- What a failure of the transport means is one of the kinds. -/
theorem isClassified_classifyFailure (f : TransportFailure) :
    (classifyFailure f : ApiError τ).kind.isClassified = true := by
  obtain ⟨cause, detail⟩ := f
  cases cause <;> rfl

/-- What a response means is one of the kinds. -/
theorem isClassified_classifyResponse (r : Response) :
    (classifyResponse r : ApiError τ).kind.isClassified = true := by
  unfold classifyResponse
  dsimp only
  split
  next => rfl
  next =>
    split
    next => rfl
    next =>
      split
      next => rfl
      next =>
        split
        next => rfl
        next => split <;> rfl
        next => rfl

/-- A response of success has a status below 300. -/
theorem status_lt_of_ok {r : Response} (ok : r.ok = true) : r.status < 300 := by
  unfold Response.ok at ok
  exact of_decide_eq_true (Bool.and_eq_true_iff.mp ok).2

/-- What a response of success means that gave the caller no payload: the node rejects the request,
is asked too often, or says what nobody understands. -/
theorem kind_classifyResponse_of_ok {r : Response} (ok : r.ok = true) :
    (classifyResponse r : ApiError τ).kind ∈ [.fatal, .rateLimited, .decode] := by
  have low := status_lt_of_ok ok
  have notServer : ¬ 500 ≤ r.status := by omega
  have notRejected : ¬ 400 ≤ r.status := by omega
  unfold classifyResponse
  dsimp only
  rw [if_neg notServer, if_neg notRejected]
  split
  next => simp
  next =>
    split
    next => simp
    next => split <;> simp
    next => simp

/-- What a response asks to wait is passed on where its request may be repeated. -/
theorem retryAfter_classifyResponse (r : Response) :
    (classifyResponse r : ApiError τ).retryAfter =
      if (classifyResponse r : ApiError τ).retryable then retryAfter? r else none := by
  unfold classifyResponse
  dsimp only
  split
  next => rfl
  next =>
    split
    next => rfl
    next =>
      split
      next => rfl
      next =>
        split
        next => rfl
        next => split <;> rfl
        next => rfl

/-! ## Responses with a payload -/

/-- A response of success whose body is an object that reports neither an error nor throttling. -/
structure Carries (r : Response) (fields : Json.Fields) : Prop where
  ok : r.ok = true
  body : r.body? = some (.obj fields)
  well : ¬ ((Report.ofBody (some (.obj fields))).isFailure
    || (Report.ofBody (some (.obj fields))).throttles) = true

namespace Carries

variable {r : Response} {fields : Json.Fields}

/-- Such a response matches none of the rules before the last one. -/
theorem classifyResponse_eq (h : Carries r fields) :
    (classifyResponse r : ApiError τ) =
      { kind := .decode
        message := "response does not match the gateway envelope"
        code := (Report.ofBody (some (.obj fields))).code
        httpStatus := some r.status } := by
  have low := status_lt_of_ok h.ok
  have notLimited : ¬ r.status = 429 := by omega
  have notServer : ¬ 500 ≤ r.status := by omega
  have notRejected : ¬ 400 ≤ r.status := by omega
  obtain ⟨unfailing, unthrottled⟩ := Bool.or_eq_false_iff.mp (Bool.not_eq_true _ ▸ h.well)
  simp [classifyResponse, h.body, unfailing, unthrottled, notLimited, notServer, notRejected]

/-- Its payload is what stands under `data`, if that is an object, or without `data` the object
itself. -/
theorem unwrap_eq (h : Carries r fields) :
    (unwrap r : Except (ApiError τ) Json.Fields) =
      match Json.Fields.get? fields "data" with
      | some (.obj data) => .ok data
      | some _ =>
        .error { classifyResponse r with message := "envelope data is not an object" }
      | none => .ok (fields.filter fun field => field.1 != "error" && field.1 != "code") := by
  rw [h.classifyResponse_eq, unwrap, h.ok, h.body]
  dsimp only
  refine (if_neg Bool.false_ne_true).trans ((if_neg h.well).trans ?_)
  cases Json.Fields.get? fields "data" with
  | none => rfl
  | some value => cases value <;> rfl

end Carries

/-- A response that gives a payload carries an object. -/
theorem carries_of_unwrap {r : Response} {data : Json.Fields}
    (given : (unwrap r : Except (ApiError τ) Json.Fields) = .ok data) :
    ∃ fields, Carries r fields := by
  unfold unwrap at given
  split at given
  next => cases given
  next failed =>
    have ok : r.ok = true := by simpa using failed
    split at given
    next fields body =>
      dsimp only at given
      split at given
      next => cases given
      next well => exact ⟨fields, ok, body, well⟩
    next => cases given

/-- A response that carries nothing raises the error that classification finds. -/
theorem unwrap_of_not_carries {r : Response} (none : ¬ ∃ fields, Carries r fields) :
    (unwrap r : Except (ApiError τ) Json.Fields) = .error (classifyResponse r) := by
  unfold unwrap
  split
  next => rfl
  next unsuccessful =>
    split
    next fields body =>
      refine if_pos (Decidable.not_not.mp fun well => ?_)
      exact none ⟨fields, by simpa using unsuccessful, body, well⟩
    next => rfl

/-- The error of a response that gives no payload is the one that classification finds. Where there
is an envelope whose data is no object, the message says that instead. -/
theorem eq_of_unwrap_eq_error {r : Response} {e : ApiError τ} (failed : unwrap r = .error e) :
    e = classifyResponse r ∨
      e = { classifyResponse r with message := "envelope data is not an object" } := by
  by_cases carries : ∃ fields, Carries r fields
  · obtain ⟨fields, carries⟩ := carries
    rw [carries.unwrap_eq] at failed
    split at failed
    next => cases failed
    next =>
      cases failed
      exact .inr rfl
    next => cases failed
  · rw [unwrap_of_not_carries carries] at failed
    cases failed
    exact .inl rfl

theorem isClassified_unwrap {r : Response} {e : ApiError τ} (failed : unwrap r = .error e) :
    e.kind.isClassified = true := by
  rcases eq_of_unwrap_eq_error failed with rfl | rfl <;> exact isClassified_classifyResponse r

theorem kind_unwrap_of_ok {r : Response} (ok : r.ok = true) {e : ApiError τ}
    (failed : unwrap r = .error e) : e.kind ∈ [.fatal, .rateLimited, .decode] := by
  rcases eq_of_unwrap_eq_error failed with rfl | rfl <;> exact kind_classifyResponse_of_ok ok

theorem retryAfter_unwrap {r : Response} {e : ApiError τ} (failed : unwrap r = .error e) :
    e.retryAfter = if e.retryable then retryAfter? r else none := by
  rcases eq_of_unwrap_eq_error failed with rfl | rfl <;> exact retryAfter_classifyResponse r

/-- Taking out the payload and classifying decide alike. A payload is taken out of a response of
success alone, and only of one in which classification finds nothing but an envelope that it does
not know. Any other response raises the very error that classification finds, but for the message
where the data of an envelope is no object. A response of success is never taken for a busy server
or a lost connection. -/
theorem unwrap_agrees (r : Response) :
    match (unwrap r : Except (ApiError τ) Json.Fields) with
    | .ok _ => r.ok = true ∧ (classify (.response r) : ApiError τ).kind = .decode
    | .error e =>
      (e = classify (.response r) ∨
        e = { classify (.response r) with message := "envelope data is not an object" }) ∧
      (r.ok = true → e.kind ∈ [.fatal, .rateLimited, .decode]) := by
  split
  next data given =>
    obtain ⟨fields, carries⟩ : ∃ fields, Carries r fields := carries_of_unwrap given
    have unknown : (classify (.response r) : ApiError τ) = _ := carries.classifyResponse_eq
    exact ⟨carries.ok, by rw [unknown]⟩
  next e failed => exact ⟨eq_of_unwrap_eq_error failed, fun ok => kind_unwrap_of_ok ok failed⟩

end Envelope

/-! ## Outcomes -/

/-- The header of an outcome; what is no response has none. -/
def Outcome.header? (name : String) : Outcome → Option String
  | .response r => r.header? name
  | .failure _ => none

/-- What an outcome asks to wait before its request is repeated. -/
def Outcome.retryAfter? : Outcome → Option τ
  | .response r => Envelope.retryAfter? r
  | .failure _ => none

/-- What an outcome asks to wait is passed on where its request may be repeated. -/
theorem Outcome.retryAfter_payload {outcome : Outcome} {e : ApiError τ}
    (failed : outcome.payload = .error e) :
    e.retryAfter = if e.retryable then outcome.retryAfter? else none := by
  cases outcome with
  | response r => exact Envelope.retryAfter_unwrap failed
  | failure f =>
    cases failed
    simp [Envelope.classifyFailure, Outcome.retryAfter?]

/-- An outcome that names no time to wait asks for none. -/
theorem Outcome.retryAfter_payload_eq_none {outcome : Outcome}
    (silent : outcome.header? "retry-after" = none) {e : ApiError τ}
    (failed : outcome.payload = .error e) : e.retryAfter = none := by
  have none : (outcome.retryAfter? : Option τ) = none := by
    cases outcome with
    | response r =>
      change r.header? "retry-after" = none at silent
      rw [Outcome.retryAfter?, Envelope.retryAfter?, silent, Option.bind_none]
    | failure f => rfl
  rw [retryAfter_payload failed, none, ite_self]

theorem Outcome.isClassified_payload {outcome : Outcome} {e : ApiError τ}
    (failed : outcome.payload = .error e) : e.kind.isClassified = true := by
  cases outcome with
  | response r => exact Envelope.isClassified_unwrap failed
  | failure f =>
    cases failed
    exact Envelope.isClassified_classifyFailure f

/-- No answer means that the caller has cancelled. -/
theorem Outcome.kind_payload_ne_cancelled {outcome : Outcome} {e : ApiError τ}
    (failed : outcome.payload = .error e) : e.kind ≠ .cancelled := by
  intro cancelled
  have classified := isClassified_payload failed
  rw [cancelled] at classified
  cases classified

/-- No answer means that the attempts are used up. -/
theorem Outcome.kind_payload_ne_timedOut {outcome : Outcome} {e : ApiError τ}
    (failed : outcome.payload = .error e) : e.kind ≠ .timedOut := by
  intro timedOut
  have classified := isClassified_payload failed
  rw [timedOut] at classified
  cases classified

end GatewayClient
