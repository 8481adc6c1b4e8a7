import GatewayClient.Proofs.Envelope
import GatewayClient.Time.Seconds

/-!
# What the node reports

The body of a response may be an object that reports an error. Where it does, classification goes by
the report alone (`Envelope.classifyResponse_of_message`).

**An error quotes the node** (`Envelope.quotesNode_iff`) if its message follows the words of the
report, however these are chosen. The mark that an error carries for it is kept on rejections only:
an error that allows a retry is never marked, though its message is the node's
(`Envelope.nodeReported_law`).
-/

set_option autoImplicit false

namespace GatewayClient

/-- What the body of a response says of an error. -/
def Response.report (r : Response) : Envelope.Report := Envelope.Report.ofBody r.body?

/-- Status and headers report nothing. -/
theorem Response.report_of_content {r r' : Response} (same : r'.content = r.content) :
    r'.report = r.report := by
  unfold report body? json
  rw [same]

/-! ## What the node says -/

namespace Envelope

/-- Only an object reports anything. -/
theorem Report.ofBody_of_message {body : Option Json} (said : (ofBody body).message ≠ "") :
    ∃ fields, body = some (.obj fields) := by
  unfold ofBody at said
  split at said
  next fields => exact ⟨fields, rfl⟩
  next => exact absurd rfl said

/-- A report that has a message says it. -/
theorem Report.messageOr_eq {report : Report} (said : report.message ≠ "") (otherwise : Text) :
    report.messageOr otherwise = report.message :=
  if_neg (mt Text.isEmpty_iff.mp said)

variable {τ : Type} [TimeScale τ] {r : Response}

/-- What a response means whose body reports an error: the request came too often, the server is
busy, or the node rejects the request; and where the code is the one of success, that nobody
understands the answer. -/
theorem classifyResponse_of_message (said : r.report.message ≠ "") :
    (classifyResponse r : ApiError τ) =
      if r.status = 429 ∨ r.report.throttles = true then
        { kind := .rateLimited
          message := r.report.message
          code := r.report.code
          httpStatus := some r.status
          retryAfter := retryAfter? r }
      else if 500 ≤ r.status then
        { kind := .transient
          message := r.report.message
          code := r.report.code
          httpStatus := some r.status
          retryAfter := retryAfter? r }
      else if 400 ≤ r.status ∨ r.report.code ≠ some (successCode : Text) then
        { kind := .fatal
          message := r.report.message
          code := r.report.code
          httpStatus := some r.status
          nodeReported := true }
      else
        { kind := .decode
          message := "response does not match the gateway envelope"
          code := r.report.code
          httpStatus := some r.status } := by
  obtain ⟨fields, body⟩ := Report.ofBody_of_message said
  have full : r.report.message.isEmpty = false :=
    Bool.not_eq_true _ ▸ mt Text.isEmpty_iff.mp said
  have report : Report.ofBody (some (.obj fields)) = r.report := congrArg Report.ofBody body.symm
  unfold classifyResponse rejectionMessage
  rw [body]
  dsimp only
  rw [report]
  simp only [Bool.or_eq_true, beq_iff_eq, Report.messageOr_eq said]
  -- The first two rules are the same on both sides. What is left is a status below 500.
  refine ite_congr rfl (fun _ => rfl) fun _ => ite_congr rfl (fun _ => rfl) fun _ => ?_
  by_cases rejected : 400 ≤ r.status
  · rw [if_pos rejected, if_pos (.inl rejected), full, Bool.not_false]
  · rw [if_neg rejected]
    have failure : r.report.isFailure = true ↔
        400 ≤ r.status ∨ r.report.code ≠ some (successCode : Text) := by
      simp [Report.isFailure, full, rejected]
    exact ite_congr (propext failure) (fun _ => rfl) fun _ => rfl

/-! ## Errors marked as the node's -/

/-- The node itself rejects the request. -/
structure Rejects (r : Response) : Prop where
  said : r.report.message ≠ ""
  unlimited : ¬ (r.status = 429 ∨ r.report.throttles = true)
  served : r.status < 500
  failed : 400 ≤ r.status ∨ r.report.code ≠ some (successCode : Text)

/-- A request that the node rejects fails for good, with the node's own words. -/
theorem Rejects.classifyResponse_eq (h : Rejects r) :
    (classifyResponse r : ApiError τ) =
      { kind := .fatal
        message := r.report.message
        code := r.report.code
        httpStatus := some r.status
        nodeReported := true } := by
  rw [classifyResponse_of_message h.said, if_neg h.unlimited, if_neg (Int.not_le.mpr h.served),
    if_pos h.failed]

/-- What reports no error is never marked as the node's. -/
theorem nodeReported_of_silent (silent : r.report.message = "") :
    (classifyResponse r : ApiError τ).nodeReported = false := by
  have report : Report.ofBody r.body? = r.report := rfl
  unfold classifyResponse
  dsimp only
  rw [report]
  split
  next => rfl
  next =>
    split
    next => rfl
    next =>
      split
      next => simp [silent]
      next =>
        split
        next => rfl
        next => simp [Report.isFailure, silent]
        next => rfl

/-- An error is marked as the node's if the node itself rejects the request, and in no other
case. -/
theorem nodeReported_iff : (classifyResponse r : ApiError τ).nodeReported = true ↔ Rejects r := by
  refine ⟨fun marked => ?_, fun h => by rw [h.classifyResponse_eq]⟩
  by_cases said : r.report.message = ""
  · rw [nodeReported_of_silent said] at marked
    cases marked
  · rw [classifyResponse_of_message said] at marked
    split at marked
    next => cases marked
    next unlimited =>
      split at marked
      next => cases marked
      next served =>
        split at marked
        next failed => exact ⟨said, unlimited, Int.not_le.mp served, failed⟩
        next => cases marked

/-! ## Messages that quote the node -/

/-- One response reports other words than another, and is otherwise like it in all that
classification looks at. -/
structure Rewords (r r' : Response) : Prop where
  status : r'.status = r.status
  headers : r'.headers = r.headers
  code : r'.report.code = r.report.code
  throttles : r'.report.throttles = r.report.throttles
  said : r'.report.message ≠ ""

/-- Where the node reports something, the message of an answer that is understood is what it
reports. -/
theorem message_of_said (said : r.report.message ≠ "") :
    (classifyResponse r : ApiError τ).message =
      if (classifyResponse r : ApiError τ).kind = .decode then
        ("response does not match the gateway envelope" : Text)
      else r.report.message := by
  rw [classifyResponse_of_message said]
  split
  next => rfl
  next =>
    split
    next => rfl
    next => split <;> rfl

/-- The words do not decide the kind. -/
theorem Rewords.kind_eq {r' : Response} (h : Rewords r r') (said : r.report.message ≠ "") :
    (classifyResponse r' : ApiError τ).kind = (classifyResponse r : ApiError τ).kind := by
  rw [classifyResponse_of_message said, classifyResponse_of_message h.said]
  simp only [apply_ite ApiError.kind, h.status, h.throttles, h.code]

variable (τ r) in
/-- The message of the error is taken from the report: there is one, and in other words it would
give those. -/
def QuotesNode : Prop :=
  r.report.message ≠ "" ∧ ∀ r', Rewords r r' →
    (classifyResponse r' : ApiError τ).message = r'.report.message

/-- The body of a response that reports an error under the code of success. -/
def harmlessContent : Bytes :=
  Bytes.ofText "\x7b\"error\":\"harmless\",\"code\":\"successful\"\x7d"

/-- The harmless body reports its error under the code of success. -/
theorem report_harmlessContent (r : Response) :
    ({ r with content := harmlessContent } : Response).report =
      { message := "harmless", code := some successCode } := by
  have alone : ({ status := 200, content := harmlessContent } : Response).report =
      { message := "harmless", code := some successCode } := by decide +kernel
  rw [← alone]
  exact Response.report_of_content rfl

/-- What nobody understands is reported under the code of success. -/
theorem rewords_harmlessContent (said : r.report.message ≠ "")
    (misfit : (classifyResponse r : ApiError τ).kind = .decode) :
    Rewords r { r with content := harmlessContent } := by
  have code : r.report.code = some (successCode : Text) ∧ r.report.throttles = false := by
    rw [classifyResponse_of_message said] at misfit
    split at misfit
    next => cases misfit
    next unlimited =>
      split at misfit
      next => cases misfit
      next =>
        split at misfit
        next => cases misfit
        next unfailing =>
          exact ⟨Decidable.not_not.mp (not_or.mp unfailing).2,
            Bool.eq_false_iff.mpr (not_or.mp unlimited).2⟩
  have report := report_harmlessContent r
  exact
    { status := rfl
      headers := rfl
      code := by rw [report, code.1]
      throttles := by
        rw [report, code.2]
        decide +kernel
      said := by
        rw [report]
        decide }

/-- An error quotes the node wherever the node reports something and is understood. -/
theorem quotesNode_iff : QuotesNode τ r ↔
    r.report.message ≠ "" ∧ (classifyResponse r : ApiError τ).kind ≠ .decode := by
  refine and_congr_right fun said => ⟨fun quotes misfit => ?_, fun understood r' rewords => ?_⟩
  · have rewords := rewords_harmlessContent said misfit
    have quoted := quotes _ rewords
    rw [message_of_said rewords.said, if_pos ((rewords.kind_eq said).trans misfit),
      report_harmlessContent] at quoted
    exact absurd quoted (by decide)
  · rw [message_of_said rewords.said, if_neg fun misfit => understood ?_]
    rw [← misfit, rewords.kind_eq said]

/-- The node itself rejects a request where it reports an error that is understood and allows no
retry. -/
theorem rejects_iff : Rejects r ↔ r.report.message ≠ "" ∧
    (classifyResponse r : ApiError τ).kind ≠ .decode ∧
      (classifyResponse r : ApiError τ).retryable = false := by
  constructor
  · intro h
    rw [h.classifyResponse_eq]
    exact ⟨h.said, nofun, rfl⟩
  · rintro ⟨said, understood, final⟩
    rw [classifyResponse_of_message said] at understood final
    split at final
    next => cases final
    next unlimited =>
      rw [if_neg unlimited] at understood
      split at final
      next => cases final
      next served =>
        rw [if_neg served] at understood
        split at final
        next failed => exact ⟨said, unlimited, Int.not_le.mp served, failed⟩
        next unfailing =>
          rw [if_neg unfailing] at understood
          exact absurd rfl understood

/-- An error is marked as the node's exactly if it quotes the node and allows no retry. It quotes
the node wherever the node reports something, unless nobody understands the answer. -/
theorem nodeReported_law (r : Response) :
    ((classify (.response r) : ApiError τ).nodeReported = true ↔
      QuotesNode τ r ∧ (classify (.response r) : ApiError τ).retryable = false) ∧
    (QuotesNode τ r ↔
      r.report.message ≠ "" ∧ (classify (.response r) : ApiError τ).kind ≠ .decode) := by
  have marked : (classify (.response r) : ApiError τ).nodeReported = true ↔ Rejects r :=
    nodeReported_iff
  refine ⟨?_, quotesNode_iff⟩
  rw [marked, rejects_iff (τ := τ), quotesNode_iff, and_assoc]
  rfl

/-- A busy server that says so in its own words. -/
def busyResponse : Response where
  status := 503
  content := Bytes.ofText "\x7b\"error\":\"node is syncing\",\"code\":\"internal_issue\"\x7d"

/-- The error quotes the node, and is not marked as the node's. -/
theorem unmarked_quotation : QuotesNode Float busyResponse ∧
    (classify (.response busyResponse) : ApiError Float).message = "node is syncing" ∧
    (classify (.response busyResponse) : ApiError Float).nodeReported = false := by
  have report : busyResponse.report =
      { message := "node is syncing", code := some "internal_issue" } := by decide +kernel
  have said : busyResponse.report.message ≠ "" := by
    rw [report]
    decide
  have kind : (classifyResponse busyResponse : ApiError Float).kind = .transient := by
    decide +kernel
  refine ⟨quotesNode_iff.mpr ⟨said, by rw [kind]; decide⟩, ?_, ?_⟩ <;> decide +kernel

end Envelope
end GatewayClient
