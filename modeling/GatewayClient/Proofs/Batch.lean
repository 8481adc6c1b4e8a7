import GatewayClient.Proofs.Client.Results
import GatewayClient.Proofs.Json.Encoding

/-!
# A batch keeps its order

The body of a batch is put together from payloads that nobody looks into. Texts of values with
commas between them are the text of an array (`Json.writesText_array`): no text goes on with a comma
or a bracket, whatever it ends with. **So the body of a batch is the array of its payloads.**

The answer gives each hash under the number of its place. What is returned has one entry for each
request, which depends on its own number only (`BatchReceipt.aligned_of_decode?`).
-/

set_option autoImplicit false

namespace GatewayClient

/-! ## The text of an array -/

namespace Json

/-- Texts with commas between them are items, behind the blanks that the first one begins with. -/
theorem writesItems_texts {text : List CodePoint} {v : Json} {texts : List (List CodePoint)}
    {values : List Json} (first : WritesText text v)
    (others : List.Forall₂ WritesText texts values) :
    ∃ gap body, [.char ','].intercalate (text :: texts) ++ [.char ']'] = gap ++ body ∧ IsGap gap ∧
      WritesItems body (v :: values) := by
  induction others generalizing text v with
  | nil =>
    obtain ⟨before, used, after, rfl, blank, blank_after, writes⟩ := first
    refine ⟨before, used ++ (after ++ [.char ']']), ?_, blank, .last writes blank_after⟩
    rw [List.intercalate_singleton, List.append_assoc, List.append_assoc]
  | @cons next _ texts _ second _ ih =>
    obtain ⟨before, used, after, rfl, blank, blank_after, writes⟩ := first
    obtain ⟨gap, body, rest, blank_next, items⟩ := ih second
    refine ⟨before, used ++ (after ++ .char ',' :: (gap ++ body)), ?_, blank,
      .more writes blank_after blank_next items⟩
    rw [List.intercalate_cons_cons, List.append_assoc, rest]
    simp only [List.append_assoc, List.singleton_append]

/-- Texts of values in brackets, with commas between them, are the text of the array. -/
theorem writesText_array {texts : List (List CodePoint)} {values : List Json}
    (written : List.Forall₂ WritesText texts values) :
    WritesText (.char '[' :: ([.char ','].intercalate texts ++ [.char ']'])) (.arr values) := by
  cases written with
  | nil => exact ⟨[], [.char '[', .char ']'], [], rfl, isGap_nil, isGap_nil, .noItems isGap_nil⟩
  | cons first others =>
    obtain ⟨gap, body, text, blank, items⟩ := writesItems_texts first others
    refine ⟨[], .char '[' :: (gap ++ body), [], ?_, isGap_nil, isGap_nil, .arr blank items⟩
    rw [text, List.append_nil, List.nil_append]

end Json

/-- Strings with a separator between them are so as texts. -/
theorem Text.coe_intercalate (separator : String) (strings : List String) :
    ((separator.intercalate strings : String) : Text) =
      Text.intercalate separator (strings.map Text.ofString) := by
  induction strings with
  | nil => rfl
  | cons s strings ih =>
    cases strings with
    | nil => rw [String.intercalate_singleton, Text.intercalate, List.map_singleton,
        List.map_singleton, List.intercalate_singleton]
    | cons next strings =>
      rw [String.intercalate_cons_cons, coe_append, coe_append, ih]
      exact Text.ext (List.intercalate_cons_cons ..).symm

/-! ## Its bytes -/

namespace Bytes

/-- The bytes of a text are those of its parts. -/
theorem ofText_append (s t : String) : ofText (s ++ t) = ofText s ++ ofText t := by
  rw [ofText, String.toList_append, List.flatMap_append]
  rfl

/-- The bytes of texts with a separator between them. -/
theorem ofText_intercalate (separator : String) (texts : List String) :
    ofText (separator.intercalate texts) = (ofText separator).intercalate (texts.map ofText) := by
  induction texts with
  | nil => rfl
  | cons text texts ih =>
    cases texts with
    | nil => rw [String.intercalate_singleton, List.map_singleton, List.intercalate_singleton]
    | cons next texts =>
      rw [String.intercalate_cons_cons, ofText_append, ofText_append, ih, List.map_cons,
        List.map_cons, List.map_cons, List.intercalate_cons_cons]

end Bytes

/-! ## The body of a batch -/

namespace TransactionRequest

/-- The payload is a JSON text in UTF-8, which is read as the value. A byte order mark would make it
none. -/
def Carries (request : TransactionRequest) (v : Json) : Prop :=
  ∃ text : String, request.payload = Bytes.ofText text ∧ Json.ofText text = .ok v

/-- A request that carries a value has it for its payload. -/
theorem Carries.json {request : TransactionRequest} {v : Json} (h : request.Carries v)
    {r : Response} (content : r.content = request.payload) : r.json = .ok v := by
  obtain ⟨text, payload, read⟩ := h
  exact Response.json_ofText read (content.trans payload)

/-- Payloads that carry values are texts that write them. -/
theorem texts_of_carries {requests : List TransactionRequest} {values : List Json}
    (carried : List.Forall₂ Carries requests values) : ∃ texts : List String,
      requests.map (·.payload) = texts.map Bytes.ofText ∧
        List.Forall₂ Json.WritesText ((texts.map Text.ofString).map Text.points) values := by
  induction carried with
  | nil => exact ⟨[], rfl, .nil⟩
  | cons own _ ih =>
    obtain ⟨text, payload, read⟩ := own
    obtain ⟨texts, payloads, written⟩ := ih
    exact ⟨text :: texts, by rw [List.map_cons, List.map_cons, payload, payloads],
      .cons (Json.ofPoints_eq_ok_iff.mp read) written⟩

/-- The body of a batch is the array of its payloads. -/
theorem batch_json {requests : List TransactionRequest} {values : List Json}
    (carried : List.Forall₂ Carries requests values) {r : Response}
    (content : r.content = batch requests) : r.json = .ok (.arr values) := by
  obtain ⟨texts, payloads, written⟩ := texts_of_carries carried
  have body : batch requests = Bytes.ofText ("[" ++ ",".intercalate texts ++ "]") := by
    rw [batch, payloads, Bytes.ofText_append, Bytes.ofText_append, Bytes.ofText_intercalate]
  refine Response.json_ofText ?_ (content.trans body)
  have text : (("[" ++ ",".intercalate texts ++ "]" : String) : Text).points = .char '[' ::
      ([.char ','].intercalate ((texts.map Text.ofString).map Text.points) ++ [.char ']']) := by
    rw [Text.coe_append, Text.coe_append, Text.append_points, Text.append_points,
      Text.coe_intercalate, List.append_assoc]
    rfl
  rw [Json.ofText, text]
  exact Json.ofPoints_eq_ok_iff.mpr (Json.writesText_array written)

end TransactionRequest

/-! ## The hashes of an answer -/

/-- The entries are those of a table of hashes: one for each place, which is the text under the
number of the place, or nothing where the table has no such key. -/
structure Aligned (table : Json.Fields) (count : Nat) (hashes : List (Option Text)) : Prop where
  length : hashes.length = count
  entry : ∀ i < count, ∃ hash,
    hashes[i]? = some hash ∧ table.get? (toString i : String) = hash.map .str

/-- What is read of items, place by place. -/
theorem getElem?_of_mapM {α β : Type} {f : α → Option β} {items : List α} {read : List β}
    (h : items.mapM f = some read) :
    read.length = items.length ∧ ∀ {i : Nat} {item : α}, items[i]? = some item →
      ∃ b, read[i]? = some b ∧ f item = some b := by
  induction items generalizing read with
  | nil =>
    cases h
    exact ⟨rfl, nofun⟩
  | cons item items ih =>
    rw [List.mapM_cons] at h
    obtain ⟨b, own, h⟩ := Option.bind_eq_some_iff.mp h
    obtain ⟨others, reads, h⟩ := Option.bind_eq_some_iff.mp h
    cases h
    obtain ⟨length, entry⟩ := ih reads
    refine ⟨by rw [List.length_cons, List.length_cons, length], fun {i other} place => ?_⟩
    cases i with
    | zero =>
      cases place
      exact ⟨b, rfl, own⟩
    | succ i => exact entry place

/-- A text that may be missing, where nothing but texts can be: it is the text, or the key is. -/
theorem Schema.Fits.get?_of_mapOf {table : Json.Fields} {key : Text} {hash : Option Text}
    (fits : (Schema.mapOf (.any [.string])).Fits (.obj table))
    (read : table.optional? key Json.text? = some hash) : table.get? key = hash.map .str := by
  unfold Json.Fields.optional? at read
  split at read
  next none =>
    cases read
    exact none
  next null =>
    have admitted := (fits.value_of_mapOf null).admits_kinds
    cases admitted
  next value _ found =>
    obtain ⟨text, read, rfl⟩ := Option.map_eq_some_iff.mp read
    cases value with
    | str s =>
      cases read
      exact found
    | null | bool _ | num _ | arr _ | obj _ => cases read

/-- The hashes of an answer that fits its schema are aligned. -/
theorem BatchReceipt.aligned_of_decode? {data : Json.Fields} {count : Nat} {receipt : BatchReceipt}
    (fits : Schema.transactionHashes.Fits (.obj data)) (read : decode? data count = some receipt) :
    ∃ table, data.get? "txsHashes" = some (.obj table) ∧ Aligned table count receipt.hashes := by
  obtain ⟨table, found, texts⟩ := fits.object_of_object "txsHashes" rfl rfl rfl
  unfold decode? at read
  obtain ⟨_, same, read⟩ := Option.bind_eq_some_iff.mp read
  obtain rfl := Option.some_inj.mp (found.symm.trans same)
  obtain ⟨reported, -, read⟩ := Option.bind_eq_some_iff.mp read
  obtain ⟨hashes, entries, read⟩ := Option.bind_eq_some_iff.mp read
  cases read
  obtain ⟨value, place, object⟩ := Option.bind_eq_some_iff.mp found
  have same : value = .obj table := by
    cases value with
    | obj fields =>
      cases object
      rfl
    | null | bool _ | num _ | str _ | arr _ => cases object
  obtain ⟨length, entry⟩ := getElem?_of_mapM entries
  refine ⟨table, same ▸ place, by rw [length, List.length_range], fun i inside => ?_⟩
  obtain ⟨hash, at_place, text⟩ := entry (List.getElem?_range inside)
  exact ⟨hash, at_place, texts.get?_of_mapOf text⟩

/-! ## One request -/

variable {σ τ α : Type} [TimeScale τ]

/-- A call that may not be repeated gives the payload that its request is answered with. -/
theorem Call.Rounds.ok_of_answered {c : Call τ} {started : τ} {made : Nat} {log : Log τ}
    {r : Except (Failure τ) Json.Fields} (h : c.Rounds started made log r)
    (once : c.idempotent = false) {request : Request τ} {outcome : Outcome} {data : Json.Fields}
    (asked : (request, some outcome) ∈ log.sent)
    (payload : (outcome.payload : Except (ApiError τ) Json.Fields) = .ok data) : r = .ok data := by
  have only : ∀ {other : Outcome}, (request, some outcome) ∈ (c.asked other).sent →
      outcome = other := by
    intro other mem
    rw [sent_asked, List.mem_singleton] at mem
    cases mem
    rfl
  cases h with
  | stopped => cases asked
  | abandoned => cases List.mem_singleton.mp asked
  | answered payload' =>
    obtain rfl := only asked
    rw [payload] at payload'
    cases payload'
    rfl
  | refused failed =>
    obtain rfl := only asked
    rw [failed] at payload
    cases payload
  | gaveUp retries _ | overflowed retries _ _ | interrupted retries _ _ | again retries _ _ _ =>
    exact absurd retries (Retries.not_of_once once)

/-- A write whose request is answered with a payload finishes with it. -/
theorem Write.finishes {write : Write α} {c : Client τ} {watching : Bool}
    (accepted : write.Accepted c) {log : Log τ} {r : Except (Failure τ) α}
    (h : (write.run c watching).Traces log r) {request : Request τ} {outcome : Outcome}
    {data : Json.Fields} (asked : (request, some outcome) ∈ log.sent)
    (payload : (outcome.payload : Except (ApiError τ) Json.Fields) = .ok data) :
    ∃ rest, (write.finish data : Action τ α).Traces rest r := by
  obtain ⟨call, once, calls, -⟩ := exists_call accepted watching
  rw [calls] at h
  rcases Action.traces_bind h with ⟨failure, rfl, cut⟩ | ⟨first, given, rest, rfl, went, read⟩
  · obtain ⟨started, log, rfl, rounds⟩ := Call.rounds_of_traces_run cut
    cases rounds.ok_of_answered once asked payload
  · have silent := Log.sent_of_warns ((write.aside_finish given read).1)
    rw [Log.sent_append, silent, List.append_nil] at asked
    obtain ⟨started, log, rfl, rounds⟩ := Call.rounds_of_traces_run went
    cases rounds.ok_of_answered once asked payload
    exact ⟨rest, read⟩

/-- A payload of a log is that of one of its requests. -/
theorem Log.mem_payloads {log : Log τ} {data : Json.Fields} (mem : data ∈ log.payloads) :
    ∃ request outcome, (request, some outcome) ∈ log.sent ∧
      (outcome.payload : Except (ApiError τ) Json.Fields) = .ok data := by
  obtain ⟨⟨request, answer⟩, sent, read⟩ := List.mem_filterMap.mp mem
  obtain ⟨outcome, rfl, found⟩ := Option.bind_eq_some_iff.mp read
  refine ⟨request, outcome, sent, ?_⟩
  cases payload : (outcome.payload : Except (ApiError τ) Json.Fields) with
  | ok other =>
    rw [payload] at found
    cases found
    rfl
  | error e =>
    rw [payload] at found
    cases found

/-- A write that has a result was answered with a payload, and finished with it. -/
theorem Write.answered_of_ok {write : Write α} {c : Client τ} {watching : Bool}
    (accepted : write.Accepted c) {log : Log τ} {a : α}
    (h : (write.run c watching).Traces log (.ok a)) :
    ∃ request outcome data rest, (request, some outcome) ∈ log.sent ∧
      (outcome.payload : Except (ApiError τ) Json.Fields) = .ok data ∧
      (write.finish data : Action τ α).Traces rest (.ok a) := by
  obtain ⟨call, -, calls, -⟩ := exists_call accepted watching
  rw [calls] at h
  rcases Action.traces_bind h with ⟨failure, same, -⟩ | ⟨first, data, rest, rfl, went, read⟩
  · cases same
  · have payloads := Call.gives_run _ went
    have mem : data ∈ first.payloads := payloads ▸ List.mem_singleton_self data
    obtain ⟨request, outcome, sent, payload⟩ := Log.mem_payloads mem
    refine ⟨request, outcome, data, rest, ?_, payload, read⟩
    rw [Log.sent_append]
    exact List.mem_append_left _ sent

/-- A write that watches no cancel event makes its request. -/
theorem Write.Once.sent_of_unwatched {log : Log τ} {r : Except (Failure τ) α} {watching : Bool}
    (h : Write.Once watching log r) (unwatched : watching = false) : log.sent.length = 1 := by
  cases h with
  | stopped watched _ => cases unwatched.symm.trans watched
  | made quiet _ =>
    rw [← Log.sent_acts]
    simp [quiet]

omit [TimeScale τ] in
/-- An answer to a batch that does not fit its schema has no result. -/
theorem Write.fits_of_ok {requests : List TransactionRequest} {data : Json.Fields} {log : Log τ}
    {hashes : List (Option Text)}
    (h : ((Write.sendTransactions requests).finish data : Action τ _).Traces log (.ok hashes)) :
    Schema.transactionHashes.Fits (.obj data) := by
  rcases Action.traces_bind h with ⟨_, same, -⟩ | ⟨first, _, rest, rfl, went, -⟩
  · cases same
  · exact (Client.ensures_validate (P := fun _ => True) (F := fun _ => True) _ _ _
      (fun _ => trivial) went).2

omit [TimeScale τ] in
/-- An answer to a batch that fits its schema is taken. -/
theorem Write.ensures_receipt {requests : List TransactionRequest} {data : Json.Fields}
    (fits : Schema.transactionHashes.Fits (.obj data)) :
    ((Write.sendTransactions requests).finish data : Action τ _).Ensures Event.Warns
      (fun _ => False) fun hashes => ∃ table, data.get? "txsHashes" = some (.obj table) ∧
        Aligned table requests.length hashes := by
  obtain ⟨receipt, read⟩ := BatchReceipt.decode?_of_fits fits requests.length
  rw [finish, Client.validate_of_fits fits]
  refine (Action.Ensures.pure (R := fun _ => True) trivial).bind fun _ _ => ?_
  refine (Action.Ensures.expect (R := fun other => other = receipt) ⟨receipt, read, rfl⟩).bind
    fun other same => ?_
  subst same
  have aligned := BatchReceipt.aligned_of_decode? fits read
  split
  · exact (Action.Ensures.warn ⟨_, rfl⟩).bind fun _ _ => .pure aligned
  · exact .pure aligned

/-! ## The law of batches -/

namespace Client

/-- The answer to a request is a payload that fits the schema of batches, with the table of hashes.
-/
def Accepts (answer : Option Outcome) (table : Json.Fields) : Prop :=
  ∃ outcome data, answer = some outcome ∧
    (outcome.payload : Except (ApiError τ) Json.Fields) = .ok data ∧
    Schema.transactionHashes.Fits (.obj data) ∧ data.get? "txsHashes" = some (.obj table)

/-- **A batch keeps its order.** Where each payload is a JSON text, the only request of a batch has
the array of the payloads for its body. An answer that is accepted is returned: one entry for each
request, which is the hash under its number, or nothing where the answer has none. Nothing else is
returned. -/
theorem batch_law (c : Client τ) {requests : List TransactionRequest} {values : List Json}
    (filled : requests ≠ []) (carried : List.Forall₂ TransactionRequest.Carries requests values)
    (watching : Bool) (w : World σ τ) (s : σ) :
    let r := (c.sendTransactions requests watching).runIn w s
    List.Forall₂ (fun request v => ∀ response : Response, response.content = request.payload →
      response.json = .ok v) requests values ∧
    r.sent.length ≤ 1 ∧ (watching = false → r.sent.length = 1) ∧
    (∀ call ∈ r.sent, ∃ body, call.1.body = some body ∧
      ∀ response : Response, response.content = body → response.json = .ok (.arr values)) ∧
    (∀ call ∈ r.sent, ∀ table, Accepts (τ := τ) call.2 table → ∃ hashes, r.result = .ok hashes ∧
      Aligned table requests.length hashes) ∧
    ∀ hashes, r.result = .ok hashes → ∃ call ∈ r.sent, ∃ table, Accepts (τ := τ) call.2 table ∧
      Aligned table requests.length hashes := by
  intro r
  have accepted : (Write.sendTransactions requests).Accepted c := filled
  have traces : ((Write.sendTransactions requests).run c watching).Traces r.events r.result :=
    Action.traces_runIn _ w s
  have once := Write.once_of_traces accepted traces
  refine ⟨carried.imp fun _ _ own _ => own.json, once.sent_le_one, ?_, ?_, ?_, ?_⟩
  · exact once.sent_of_unwatched
  · intro call mem
    exact ⟨_, Write.body_of_sent traces call mem,
      fun _ content => TransactionRequest.batch_json carried content⟩
  · rintro ⟨request, answer⟩ mem table ⟨outcome, data, rfl, payload, fits, place⟩
    obtain ⟨rest, read⟩ := Write.finishes accepted traces mem payload
    obtain ⟨-, met⟩ := Write.ensures_receipt fits read
    cases ended : r.result with
    | ok hashes =>
      rw [ended] at met
      obtain ⟨other, same, aligned⟩ := met
      -- The payload has one table of hashes, so the two that are spoken of are the same.
      obtain rfl : table = other := by
        rw [place] at same
        cases same
        rfl
      exact ⟨hashes, rfl, aligned⟩
    | error failure =>
      rw [ended] at met
      exact met.elim
  · intro hashes ok
    rw [ok] at traces
    obtain ⟨request, outcome, data, rest, mem, payload, read⟩ :=
      Write.answered_of_ok accepted traces
    have fits := Write.fits_of_ok read
    obtain ⟨-, table, place, aligned⟩ := Write.ensures_receipt fits read
    exact ⟨_, mem, table, ⟨outcome, data, rfl, payload, fits, place⟩, aligned⟩

/-- Two transactions, with blanks around their texts. -/
def twoTransactions : List TransactionRequest :=
  [⟨Bytes.ofText " \x7b\"nonce\": 1\x7d", "drt1", none⟩, ⟨Bytes.ofText "[2]\n", "drt2", none⟩]

/-- The node takes the second one. Its answer has a hash for a third one too. -/
def secondTaken : Reply Float :=
  { answer := some (.response
      { status := 200
        content := Bytes.ofText
          ("\x7b\"data\":\x7b\"numOfSentTxs\":1,\"txsHashes\":\x7b\"2\":\"cd\",\"1\":\"ab\"\x7d\x7d,"
            ++ "\"error\":\"\",\"code\":\"successful\"\x7d") })
    advance := 0.25 }

/-- The hash of the second transaction stands in the second place, and the third one nowhere. -/
theorem batch_law_second :
    let values : List Json := [.obj [("nonce", .num (.int 1))], .arr [.num (.int 2)]]
    let r := (onThisMachine.sendTransactions twoTransactions false).runIn Script.world
      { now := 0.0, replies := [secondTaken] }
    twoTransactions ≠ [] ∧ List.Forall₂ TransactionRequest.Carries twoTransactions values ∧
      r.sent.length = 1 ∧ r.result = .ok [none, some ("ab" : Text)] ∧
      ∃ table, Aligned table 2 [none, some ("ab" : Text)] := by
  intro values r
  have carried : List.Forall₂ TransactionRequest.Carries twoTransactions values :=
    .cons ⟨" \x7b\"nonce\": 1\x7d", rfl, by decide +kernel⟩
      (.cons ⟨"[2]\n", rfl, by decide +kernel⟩ .nil)
  obtain ⟨-, -, single, -, -, returned⟩ := batch_law onThisMachine (by decide) carried false
    Script.world { now := 0.0, replies := [secondTaken] }
  have result : r.result = .ok [none, some ("ab" : Text)] := by
    have read : r.result.toOption = some [none, some ("ab" : Text)] := by decide +kernel
    cases ended : r.result with
    | ok hashes =>
      rw [ended] at read
      cases read
      rfl
    | error failure =>
      rw [ended] at read
      cases read
  obtain ⟨-, -, table, -, aligned⟩ := returned _ result
  exact ⟨by decide, carried, single rfl, result, table, aligned⟩

end Client
end GatewayClient
