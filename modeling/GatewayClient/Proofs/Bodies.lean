import GatewayClient.Proofs.Batch
import GatewayClient.Proofs.Json.RoundTrip
import GatewayClient.Proofs.Refusals

/-!
# What a body says

Three bodies are written here: a transaction that is given as an object, the accounts of a
simulator, and a query of a contract. Each is the text of a plain value, so it is ASCII, and whoever
decodes it as a response is decoded gets the value back, keys in their order
(`Bytes.encodes_compact`).

What is read back differs only where what was written differs. **So two calls with one body ask the
same query**: the order of the arguments counts, and a caller that is empty is not one that is
missing.
-/

set_option autoImplicit false

namespace GatewayClient

/-! ## Encoding a value -/

namespace Bytes

/-- The body encodes the value: it is ASCII, and a response with it is decoded to the value. -/
structure Encodes (body : Bytes) (v : Json) : Prop where
  ascii : ∀ b ∈ body, b < 0x80
  json : ∀ r : Response, r.content = body → r.json = .ok v

/-- The text of a plain value encodes it. -/
theorem encodes_compact {v : Json} (plain : v.isPlain = true) : (ofText v.compact).Encodes v where
  ascii := by
    intro b mem
    obtain ⟨c, written, mem⟩ := List.mem_flatMap.mp mem
    rw [Json.compact, String.toList_ofList] at written
    have ascii := Json.isAscii_render v plain c written
    rw [utf8EncodeChar_ascii ascii, List.mem_singleton] at mem
    rw [mem, UInt8.lt_iff_toNat_lt, UInt8.toNat_ofNat_of_lt' (Nat.lt_trans ascii (by decide))]
    exact ascii
  json := fun _ content => Response.json_ofText (Json.ofText_compact plain) content

/-- A body encodes one value. -/
theorem Encodes.unique {body : Bytes} {v v' : Json} (h : body.Encodes v) (h' : body.Encodes v') :
    v = v' :=
  Except.ok.inj ((h.json ⟨200, body, []⟩ rfl).symm.trans (h'.json ⟨200, body, []⟩ rfl))

end Bytes

/-! ## Transactions -/

namespace TransactionRequest

/-- A request for a transaction object carries the object. -/
theorem encodes_of_ofFields {tx : Json.Fields} {sender : Text} {request : TransactionRequest}
    (plain : (Json.obj tx).isPlain = true) (made : ofFields tx sender = .ok request) :
    request.payload.Encodes (.obj tx) := by
  rw [ofFields, Json.compact?_of_isPlain plain] at made
  dsimp only at made
  unfold ofPayload at made
  split at made
  next => cases made
  next =>
    split at made <;> cases made
    exact Bytes.encodes_compact plain

/-- With a sender there is a request for every plain transaction object. -/
theorem exists_ofFields {tx : Json.Fields} (plain : (Json.obj tx).isPlain = true) {sender : Text}
    (named : sender ≠ "") : ∃ request, ofFields tx sender = .ok request := by
  have filled : ¬ (Bytes.ofText (Json.obj tx).compact).isEmpty = true := by
    rw [Bytes.ofText, Json.compact, String.toList_ofList]
    simp [Json.render]
  have named : ¬ sender.isEmpty = true := mt Text.isEmpty_iff.mp named
  refine ⟨⟨Bytes.ofText (Json.obj tx).compact, sender, none⟩, ?_⟩
  rw [ofFields, Json.compact?_of_isPlain plain]
  dsimp only
  rw [ofPayload, if_neg filled, if_neg named]

/-- Whoever the sender is, the object is what the request carries. -/
theorem encodes_of_ofTransaction {tx : Json.Fields} {sender : Option Text}
    {request : TransactionRequest} (plain : (Json.obj tx).isPlain = true)
    (made : ofTransaction tx sender = .ok request) : request.payload.Encodes (.obj tx) := by
  unfold ofTransaction at made
  split at made
  next => exact encodes_of_ofFields plain made
  next =>
    split at made
    next =>
      split at made
      · cases made
      · exact encodes_of_ofFields plain made
    next => cases made

end TransactionRequest

/-! ## Queries -/

namespace VmQuery

/-- A string as a value of JSON. -/
def spelled (s : String) : Json := .str s

/-- Strings that are spelled alike are the same. -/
theorem spelled_inj {s t : String} (same : spelled s = spelled t) : s = t :=
  Text.coe_inj.mp (Json.str.inj same)

/-- What the body says of each part of a query. -/
theorem get?_toFields (q : VmQuery) :
    q.toFields.get? "scAddress" = some (.str q.scAddress) ∧
    q.toFields.get? "funcName" = some (.str q.funcName) ∧
    q.toFields.get? "args" = some (.arr (q.args.map spelled)) ∧
    q.toFields.get? "caller" = q.caller.map spelled ∧
    q.toFields.get? "value" = q.value.map spelled := by
  obtain ⟨scAddress, funcName, args, caller, value⟩ := q
  cases caller <;> cases value <;> exact ⟨rfl, rfl, rfl, rfl, rfl⟩

/-- Queries that say the same are the same. -/
theorem eq_of_toFields {q q' : VmQuery} (same : q.toFields = q'.toFields) : q = q' := by
  obtain ⟨scAddress, funcName, args, caller, value⟩ := get?_toFields q
  obtain ⟨scAddress', funcName', args', caller', value'⟩ := get?_toFields q'
  rw [same] at scAddress funcName args caller value
  have address := spelled_inj (Option.some_inj.mp (scAddress.symm.trans scAddress'))
  have name := spelled_inj (Option.some_inj.mp (funcName.symm.trans funcName'))
  have items := Json.arr.inj (Option.some_inj.mp (args.symm.trans args'))
  have arguments := List.map_inj_right (fun _ _ => spelled_inj) |>.mp items
  have from_caller :=
    Option.map_inj_right (fun _ _ => spelled_inj) |>.mp (caller.symm.trans caller')
  have of_value := Option.map_inj_right (fun _ _ => spelled_inj) |>.mp (value.symm.trans value')
  cases q
  cases q'
  congr

/-- The body of a query is plain: it has texts only. -/
theorem isPlain_toFields (q : VmQuery) : (Json.obj q.toFields).isPlain = true := by
  have texts : Json.arePlain (q.args.map fun (arg : String) => .str arg) = true := by
    rw [Json.arePlain_iff]
    intro item mem
    obtain ⟨arg, -, rfl⟩ := List.mem_map.mp mem
    exact Text.isSettled_coe arg
  obtain ⟨scAddress, funcName, args, caller, value⟩ := q
  cases caller <;> cases value <;>
    simp [toFields, Json.isPlain, Json.arePlainFields, Text.isSettled_coe, texts]

end VmQuery

/-! ## What is sent -/

variable {σ τ : Type} [TimeScale τ]

/-- A call that watches no cancel event makes a request. -/
theorem Call.Rounds.sent_ne_nil {c : Call τ} {started : τ} {made : Nat} {log : Log τ}
    {r : Except (Failure τ) Json.Fields} (h : c.Rounds started made log r)
    (unwatched : c.watching = false) : log.sent ≠ [] := by
  cases h with
  | stopped watched | abandoned watched =>
    exact absurd (watched.symm.trans unwatched) (by decide)
  | answered _ | refused _ _ | gaveUp _ _ | overflowed _ _ _ | interrupted _ _ _ | again _ _ _ _ =>
    simp [Log.sent_append]

/-- All requests of a run have bodies that encode the value. -/
def Run.Says {α : Type} (r : Run σ τ α) (v : Json) : Prop :=
  ∀ call ∈ r.sent, ∃ body, call.1.body = some body ∧ body.Encodes v

namespace Client

variable {c : Client τ} {query : VmQuery} {o : CallOptions τ} {log : Log τ}
  {r : Except (Failure τ) VmQueryResult}

/-- All requests of a query, repeated ones too, have the query for their body. -/
theorem body_of_query (h : (c.executeVmQuery query o).Traces log r) : ∀ call ∈ log.sent,
    call.1.body = some (Bytes.ofText (Json.obj query.toFields).compact) := by
  have bears : (c.executeVmQuery query o).Ensures
      (Event.Bears (some (Bytes.ofText (Json.obj query.toFields).compact))) (fun _ => True)
      fun _ => True := by
    refine ((aside_require "sc_address" query.scAddress).bears _).bind fun _ _ => ?_
    refine ((aside_require "func_name" query.funcName).bears _).bind fun _ _ => ?_
    exact (c.bears_call o .vmQuery [] [] _ true).bind fun data _ =>
      (aside_decode _ _ (.obj data) _).bears _
  exact bears.body_of_sent h

/-- A query that names its contract and function is asked. -/
theorem asks_query (address : query.scAddress ≠ "") (name : query.funcName ≠ "")
    (unwatched : o.watching = false) (h : (c.executeVmQuery query o).Traces log r) :
    log.sent ≠ [] := by
  obtain ⟨route, resolves⟩ : ∃ route, c.config.catalog.route .vmQuery [] [] = .ok route :=
    Catalog.exists_route_fixed [] rfl nofun
  rw [executeVmQuery, require_of_filled (Text.filled_coe address),
    require_of_filled (Text.filled_coe name)] at h
  change (c.call .vmQuery [] [] _ true o >>= _).Traces log r at h
  rw [call_eq_run resolves] at h
  have asked {log : Log τ} {r : Except (Failure τ) Json.Fields}
      (traces : (c.callFor .vmQuery route (some (Bytes.ofText (Json.obj query.toFields).compact))
        true o).run.Traces log r) : log.sent ≠ [] := by
    obtain ⟨started, rest, rfl, rounds⟩ := Call.rounds_of_traces_run traces
    exact rounds.sent_ne_nil unwatched
  rcases Action.traces_bind h with ⟨_, rfl, cut⟩ | ⟨first, _, rest, rfl, went, -⟩
  · exact asked cut
  · rw [Log.sent_append]
    exact List.append_ne_nil_of_left_ne_nil (asked went) _

/-- **What is encoded is what is decoded.** The payload of a transaction object, the body that sets
the state of accounts and the body of a query are ASCII, and are decoded to what they were written
from. Requests with one body ask one query. -/
theorem bodies_law (c : Client τ) {tx : Json.Fields} {accounts : List Json.Fields}
    (plain : (Json.obj tx).isPlain = true)
    (plain_accounts : ∀ account ∈ accounts, (Json.obj account).isPlain = true)
    (watching : Bool) (o : CallOptions τ) (w : World σ τ) :
    (∀ sender : Text, sender ≠ "" → ∃ request, TransactionRequest.ofFields tx sender = .ok request ∧
      request.payload.Encodes (.obj tx)) ∧
    (∀ sender request, TransactionRequest.ofTransaction tx sender = .ok request →
      request.payload.Encodes (.obj tx)) ∧
    (∀ s, ((Write.setState accounts).run c watching).runIn w s |>.Says
      (.arr (accounts.map .obj))) ∧
    (∀ s, c.config.simulator = true → accounts ≠ [] → watching = false →
      (((Write.setState accounts).run c watching).runIn w s).sent.length = 1) ∧
    (∀ query s, (c.executeVmQuery query o).runIn w s |>.Says (.obj query.toFields)) ∧
    (∀ query s, query.scAddress ≠ "" → query.funcName ≠ "" → o.watching = false →
      ((c.executeVmQuery query o).runIn w s).sent ≠ []) ∧
    ∀ query query' s s', ∀ call ∈ ((c.executeVmQuery query o).runIn w s).sent,
      ∀ call' ∈ ((c.executeVmQuery query' o).runIn w s').sent,
        call.1.body = call'.1.body → query = query' := by
  have encodes : ∀ query : VmQuery,
      (Bytes.ofText (Json.obj query.toFields).compact).Encodes (.obj query.toFields) :=
    fun query => Bytes.encodes_compact query.isPlain_toFields
  have asks : ∀ query s, ∀ call ∈ ((c.executeVmQuery query o).runIn w s).sent,
      call.1.body = some (Bytes.ofText (Json.obj query.toFields).compact) :=
    fun query s => body_of_query (Action.traces_runIn _ w s)
  have plain_array : (Json.arr (accounts.map .obj)).isPlain = true :=
    Json.arePlain_iff.mpr (List.forall_mem_map.mpr plain_accounts)
  refine ⟨?_, ?_, ?_, ?_, ?_, ?_, ?_⟩
  · intro sender named
    obtain ⟨request, made⟩ := TransactionRequest.exists_ofFields plain named
    exact ⟨request, made, TransactionRequest.encodes_of_ofFields plain made⟩
  · exact fun sender request => TransactionRequest.encodes_of_ofTransaction plain
  · intro s call mem
    exact ⟨_, Write.body_of_sent (Action.traces_runIn _ w s) call mem,
      Bytes.encodes_compact plain_array⟩
  · intro s simulates filled
    have accepted : (Write.setState accounts).Accepted c :=
      ⟨simulates, filled, Json.isWritable_of_isPlain _ plain_array⟩
    exact (Write.once_of_traces accepted (Action.traces_runIn _ w s)).sent_of_unwatched
  · exact fun query s call mem => ⟨_, asks query s call mem, encodes query⟩
  · exact fun query s address name unwatched =>
      asks_query address name unwatched (Action.traces_runIn _ w s)
  -- Bodies that are equal are decoded to one value, and a query can be read off that.
  · intro query query' s s' call mem call' mem' same
    rw [asks query s call mem, asks query' s' call' mem', Option.some_inj] at same
    have encoded := encodes query
    rw [same] at encoded
    exact VmQuery.eq_of_toFields (Json.obj.inj (encoded.unique (encodes query')))

/-- A transaction with a negative and a huge number, a control character, a quote, a character of
two units, and nested empties. -/
def oddTransaction : Json.Fields :=
  [("nonce", .num (.int (-7))), ("value", .num (.int 1000000000000000000000000000)),
    ("data", .str "\\ \"\x01\x7f\u00e9\n😀"), ("", .arr [.arr [], .obj [], .null, .bool true]),
    ("sender", .str "drt1")]

/-- Its payload is decoded to it. A query without a caller and one with an empty caller are both
asked, with bodies that differ. -/
theorem bodies_law_odd :
    let query : VmQuery := { scAddress := "drt1q", funcName := "get", args := ["01", "02"] }
    let asked (query : VmQuery) :=
      (onThisMachine.executeVmQuery query {}).runIn Script.world { now := 0.0 }
    (Json.obj oddTransaction).isPlain = true ∧
      (∃ request, TransactionRequest.ofFields oddTransaction "drt1" = .ok request ∧
        request.payload.Encodes (.obj oddTransaction)) ∧
      (((Write.setState [oddTransaction]).run onThisMachine false).runIn Script.world
        { now := 0.0 }).sent.length = 1 ∧
      (asked query).sent ≠ [] ∧ (asked { query with caller := some "" }).sent ≠ [] ∧
      ∀ call ∈ (asked query).sent, ∀ call' ∈ (asked { query with caller := some "" }).sent,
        call.1.body ≠ call'.1.body := by
  intro query asked
  have plain : (Json.obj oddTransaction).isPlain = true := by decide +kernel
  obtain ⟨written, -, -, set, -, asks, same⟩ := bodies_law onThisMachine plain
    (List.forall_mem_singleton.mpr plain) false {} Script.world
  refine ⟨plain, written "drt1" (by decide), set _ rfl (by decide) rfl, ?_, ?_, ?_⟩
  · exact asks query _ (by decide) (by decide) rfl
  · exact asks { query with caller := some "" } _ (by decide) (by decide) rfl
  · intro call mem call' mem' body
    exact absurd (same _ _ _ _ call mem call' mem' body) (by decide)

end Client
end GatewayClient
