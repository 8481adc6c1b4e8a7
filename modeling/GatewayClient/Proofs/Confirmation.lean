import GatewayClient.Proofs.Client.Commands
import GatewayClient.Proofs.Client.Conversation
import GatewayClient.Proofs.Json.Encoding
import GatewayClient.Proofs.Poll.Query

/-!
# Sending and confirming

A simulator confirms a transaction in three requests: one that sends it, one that produces blocks,
and one that reads it by the hash that came of the first.

**The requests are a prefix of these three** (`Simulator.confirmation_law`), each of which is made
once, and only after the answer before it has passed its check. There is a result only after all of
them, and nothing follows a failure. The policy of the client has no say in it, and nobody waits.

A failure is an error of the gateway, but for two cases in which a URL cannot be written
(`Simulator.Stranded`). The transaction has been sent by then, and in the second one its blocks have
been produced: the count of the blocks has too many digits, or the hash that the node answered with
has a surrogate.
-/

set_option autoImplicit false

namespace GatewayClient

namespace Percent

/-- Digits stand for themselves. -/
theorem encode_digits {s : String} (digits : ∀ c ∈ s.toList, c.isDigit = true) : encode s = s := by
  have each : ∀ c : Char, c.isDigit = true →
      (String.utf8EncodeChar c).flatMap encodeByte = [c] := by
    intro c digit
    obtain ⟨low, high⟩ : 48 ≤ c.toNat ∧ c.toNat ≤ 57 := Char.isDigit_iff_toNat.mp digit
    have all : ∀ n : Fin 10, encodeByte (UInt8.ofNat (48 + n.val)) = [Char.ofNat (48 + n.val)] := by
      decide
    have here := all ⟨c.toNat - 48, by omega⟩
    have value : 48 + (c.toNat - 48) = c.toNat := by omega
    rw [value, Char.ofNat_toNat] at here
    rw [Bytes.utf8EncodeChar_ascii (by omega), List.flatMap_singleton, here]
  rw [← String.toList_inj, encode, String.toList_ofList, Bytes.ofText, List.flatMap_assoc]
  generalize s.toList = cs at *
  induction cs with
  | nil => rfl
  | cons c cs ih =>
    obtain ⟨digit, rest⟩ := List.forall_mem_cons.mp digits
    rw [List.flatMap_cons, each c digit, ih rest]
    rfl

end Percent

variable {τ : Type}

/-! ## The parts of the conversation -/

/-- What a value is written as in a path, or how a call fails that cannot write it. -/
def PathValue.inPath (value : PathValue) : Except (Failure τ) String :=
  value.asText.mapError WritingFault.toFailure

/-- The hash in the answer to a transaction that was sent. One that its schema lets pass has it. -/
def Schema.sentHash (data : Json.Fields) : Except (ApiError τ) Text :=
  match fits : Schema.transactionHash.validate "send transaction" (.obj data) with
  | .error e => .error e
  | .ok () => .ok ((data.text? "txHash").get (Option.isSome_iff_exists.mpr
      ((Schema.validate_eq_ok_iff.mp fits).sentHash.imp fun _ => And.left)))

/-- A hash that is read is not empty: the schema asks for one character at least. -/
theorem Schema.sentHash_ne_empty {data : Json.Fields} {hash : Text}
    (sent : (sentHash data : Except (ApiError τ) Text) = .ok hash) : hash ≠ "" := by
  unfold sentHash at sent
  split at sent
  next => cases sent
  next fits =>
    obtain ⟨hash, found, filled⟩ := (Schema.validate_eq_ok_iff.mp fits).sentHash
    cases sent
    rwa [Option.get_of_eq_some _ found]

/-- A node's answer to a transaction is read by its hash. -/
theorem Write.finish_eq (request : TransactionRequest) (data : Json.Fields) :
    ((Write.sendTransaction request).finish data : Action τ Text) =
      Action.lift .api (Schema.sentHash data) := by
  rw [finish, Client.validate]
  unfold Schema.sentHash
  split
  next e malformed => rw [malformed]; rfl
  next fits =>
    obtain ⟨hash, found, -⟩ := (Schema.validate_eq_ok_iff.mp fits).sentHash
    rw [Option.get_of_eq_some _ found, fits, found]
    rfl

variable [TimeScale τ]

/-- A request to the gateway of a client. -/
def Client.requestTo (c : Client τ) (method : Method) (target : String) (body : Option Bytes) :
    Request τ :=
  { method, url := c.config.baseUrl ++ target, body, timeout := c.config.timeout }

namespace Simulator

section Requests

variable (s : Simulator τ)

/-- Sending a transaction. -/
def sending (request : TransactionRequest) (watching : Bool) : Call τ :=
  { operation := .sendTransaction
    request := s.client.requestTo .post "/transaction/send" (some request.payload)
    policy := .single
    idempotent := false
    watching }

/-- Producing blocks. -/
def producing (blocks : Int) (watching : Bool) : Call τ :=
  { operation := .simulatorGenerateBlocks
    request := s.client.requestTo .post ("/simulator/generate-blocks/" ++ toString blocks) none
    policy := .single
    idempotent := false
    watching }

/-- Reading a transaction. -/
def reading (hash : String) (withResults watching : Bool) : Call τ :=
  { operation := .transaction
    request := s.client.requestTo .get ("/transaction/" ++ Percent.encode hash ++
      if withResults then "?withResults=true" else "") none
    policy := .single
    idempotent := true
    watching }

/-- The poll that would read the transaction. -/
def poll (hash : String) (withResults watching : Bool) : Poll τ :=
  { client := s.client, policy := .single, hash, withResults, watching }

/-- What is asked to confirm a transaction of a hash. -/
def confirming (blocks : Int) (withResults watching : Bool) (hash : Text) :
    Conversation τ TransactionOnNetwork :=
  .reading (PathValue.int blocks).inPath fun _ =>
    .ask (s.producing blocks watching) fun _ =>
      .reading (PathValue.text hash).inPath fun name =>
        .ask (s.reading name withResults watching) fun data =>
          .done (((s.poll name withResults watching).decode data).mapError .api)

/-- What is asked to send a transaction and to confirm it, and what each answer has to pass. -/
def confirmation (request : TransactionRequest) (blocks : Int) (withResults watching : Bool) :
    Conversation τ TransactionOnNetwork :=
  .ask (s.sending request watching) fun data =>
    .reading ((Schema.sentHash data).mapError .api) (s.confirming blocks withResults watching)

/-- A confirmation that cannot go on, by what has been sent until then and the failure: the count of
its blocks cannot be written, or the hash that the node gave the transaction cannot. -/
inductive Stranded (request : TransactionRequest) (blocks : Int) (watching : Bool) :
    List (Request τ × Option Outcome) → Failure τ → Prop
  | count {outcome : Outcome} {data : Json.Fields} {hash : Text}
      (payload : (s.sending request watching).worth outcome = .ok data)
      (given : (Schema.sentHash data : Except (ApiError τ) Text) = .ok hash)
      (long : Decimal.isWritable blocks = false) :
      Stranded request blocks watching [((s.sending request watching).request, some outcome)]
        (.argument .tooManyDigits)
  | hash {outcome made : Outcome} {data produced : Json.Fields} {hash : Text}
      (payload : (s.sending request watching).worth outcome = .ok data)
      (given : (Schema.sentHash data : Except (ApiError τ) Text) = .ok hash)
      (short : Decimal.isWritable blocks = true)
      (answered : (s.producing blocks watching).worth made = .ok produced)
      (unknown : hash.toString? = none) :
      Stranded request blocks watching
        [((s.sending request watching).request, some outcome),
          ((s.producing blocks watching).request, some made)]
        (.unencodable hash)

end Requests

variable {s : Simulator τ} {blocks : Int} {hash : Text}

/-! ## What goes into a path -/

omit [TimeScale τ] in
/-- A count that is short enough is written in decimal. -/
theorem inPath_count (short : Decimal.isWritable blocks = true) :
    ((PathValue.int blocks).inPath : Except (Failure τ) String) = .ok (toString blocks) := by
  rw [PathValue.inPath, PathValue.asText_int short]
  rfl

omit [TimeScale τ] in
/-- A count with too many digits cannot be written. -/
theorem inPath_of_tooManyDigits (long : Decimal.isWritable blocks = false) :
    ((PathValue.int blocks).inPath : Except (Failure τ) String) =
      .error (.argument .tooManyDigits) := by
  rw [PathValue.inPath, PathValue.asText_of_tooManyDigits long]
  rfl

omit [TimeScale τ] in
theorem inPath_hash (name : String) :
    ((PathValue.text name).inPath : Except (Failure τ) String) = .ok name := by
  rw [PathValue.inPath, PathValue.asText_string]
  rfl

omit [TimeScale τ] in
/-- A hash with a surrogate cannot be written. -/
theorem inPath_of_unencodable (unknown : hash.toString? = none) :
    ((PathValue.text hash).inPath : Except (Failure τ) String) = .error (.unencodable hash) := by
  rw [PathValue.inPath, PathValue.asText_of_unencodable unknown]
  rfl

/-- A count of blocks stands for itself. -/
theorem encode_count (positive : 1 ≤ blocks) :
    Percent.encode (toString blocks) = toString blocks := by
  obtain ⟨n, rfl⟩ := Int.eq_ofNat_of_zero_le (by omega : 0 ≤ blocks)
  refine Percent.encode_digits fun c mem => ?_
  have written : (toString (n : Int)).toList = Nat.toDigits 10 n := by
    show (n.repr).toList = _
    simp [Nat.repr]
  rw [written] at mem
  exact Nat.isDigit_of_mem_toDigits (by decide) (by decide) mem

variable {version : ApiVersion}

theorem path_sending : (template version .sendTransaction).path [] = "/transaction/send" := rfl

theorem path_producing (positive : 1 ≤ blocks) (short : Decimal.isWritable blocks = true) :
    (template version .simulatorGenerateBlocks).path [("count", .int blocks)] =
      "/simulator/generate-blocks/" ++ toString blocks := by
  show String.join ["/" ++ "simulator", "/" ++ "generate-blocks",
    "/" ++ Percent.encode (PathValue.int blocks).written] = _
  rw [PathValue.written_int short, encode_count positive]
  simp only [String.join, List.foldl_cons, List.foldl_nil, ← String.append_assoc]
  rfl

/-- A path without a query is all that follows the base URL. -/
theorem url_of_path {method : Method} {path baseUrl : String} :
    Route.url baseUrl ⟨method, path, []⟩ = baseUrl ++ path :=
  String.append_empty

/-! ## The three calls -/

/-- To send a transaction is a call, and the reading of its hash. -/
theorem sendTransaction_eq (request : TransactionRequest) (watching : Bool) :
    s.client.sendTransaction request watching =
      (s.sending request watching).run >>= fun data => Action.lift .api (Schema.sentHash data) := by
  have writes := Write.run_eq_call (.sendTransaction request) s.client watching trivial
  have same : s.client.callFor .sendTransaction ⟨.post,
      (template s.client.config.catalog.version .sendTransaction).path [], []⟩
        (some request.payload) false { watching } = s.sending request watching := by
    rw [Client.callFor, url_of_path, path_sending]
    rfl
  refine writes.trans ?_
  rw [← same]
  refine congrArg (Bind.bind _) (funext fun data => ?_)
  exact Write.finish_eq request data

/-- To produce blocks is a call whose answer is not looked at. -/
theorem generateBlocks_eq (positive : 1 ≤ blocks) (short : Decimal.isWritable blocks = true)
    (watching : Bool) : s.generateBlocks blocks watching =
      (s.producing blocks watching).run >>= fun _ => pure () := by
  have writes := Write.run_eq_call (.generateBlocks blocks) s.client watching
    ⟨s.isSimulator, positive, short⟩
  have here : (Write.generateBlocks blocks).run s.client watching =
      s.generateBlocks blocks watching := Client.onSimulator_eq s.isSimulator
  have same : s.client.callFor .simulatorGenerateBlocks ⟨.post,
      (template s.client.config.catalog.version .simulatorGenerateBlocks).path
        [("count", .int blocks)], []⟩ none false { watching } = s.producing blocks watching := by
    rw [Client.callFor, url_of_path, path_producing positive short]
    rfl
  rw [← here, ← same]
  exact writes

/-- A count that cannot be written is refused, and nothing is asked for. -/
theorem generateBlocks_of_tooManyDigits (positive : 1 ≤ blocks)
    (long : Decimal.isWritable blocks = false) (watching : Bool) :
    s.generateBlocks blocks watching = Action.refuse .tooManyDigits := by
  rw [generateBlocks, if_neg (Int.not_lt.mpr positive)]
  exact Write.perform_of_tooManyDigits rfl (fun _ => s.isSimulator) long

/-- To read a transaction is a call, the check of its payload, and a warning at most. -/
theorem getTransaction_eq {name : String} (filled : name ≠ "") (withResults watching : Bool) :
    s.client.getTransaction name withResults { policy := some .single, watching } =
      (s.reading name withResults watching).run >>= (s.poll name withResults watching).read := by
  have same : (s.poll name withResults watching).call = s.reading name withResults watching := by
    have target : (s.poll name withResults watching).route.url s.client.config.baseUrl =
        s.client.config.baseUrl ++ ("/transaction/" ++ Percent.encode name ++
          if withResults then "?withResults=true" else "") :=
      Poll.url_call (p := s.poll name withResults watching)
    rw [reading, Client.requestTo, ← target]
    rfl
  rw [← same]
  exact Poll.getTransaction_eq (p := s.poll name withResults watching) filled

/-- Reading the transaction may warn that it is still pending, and asks for nothing more. -/
theorem heldBy_read (name : String) (blocks : Int) (withResults watching : Bool)
    (data : Json.Fields) :
    (Conversation.done (((s.poll name withResults watching).decode data).mapError .api)).HeldBy
      ((s.poll name withResults watching).read data >>= fun tx => do
        if !tx.isTerminal then Action.warn (.stillPending name tx.rawStatus blocks)
        return tx) := by
  refine Conversation.heldBy_done fun log r h => ?_
  rcases Action.traces_bind h with ⟨failure, rfl, cut⟩ | ⟨first, tx, rest, rfl, went, last⟩
  · exact Poll.traces_read cut
  · obtain ⟨quiet, read⟩ := Poll.traces_read went
    have done : rest.acts = [] ∧ r = .ok tx := by
      split at last
      next =>
        obtain ⟨rest, rfl, warned⟩ := Action.traces_warn last
        obtain ⟨rfl, rfl⟩ := Action.traces_pure warned
        exact ⟨rfl, rfl⟩
      next =>
        obtain ⟨rfl, rfl⟩ := Action.traces_pure last
        exact ⟨rfl, rfl⟩
    obtain ⟨none, rfl⟩ := done
    refine ⟨?_, read⟩
    rw [Log.acts_append, quiet, none, List.append_nil]

/-! ## The law -/

/-- What is asked to confirm a transaction, in each of the ways in which the paths can be written or
not. -/
theorem heldBy_confirming (filled : hash ≠ "") (positive : 1 ≤ blocks)
    (withResults watching : Bool) :
    (s.confirming blocks withResults watching hash).HeldBy
      (s.confirm blocks withResults watching hash) := by
  have single : (RetryPolicy.single : RetryPolicy τ).maxAttempts ≤ 1 := Int.le_refl 1
  -- The count is written before blocks are asked for, and the hash before the transaction is.
  cases short : Decimal.isWritable blocks with
  | false =>
    rw [confirming, inPath_of_tooManyDigits short, confirm,
      generateBlocks_of_tooManyDigits positive short]
    exact Conversation.heldBy_fail _
  | true =>
    rw [confirming, inPath_count short, confirm, generateBlocks_eq positive short,
      Action.bind_assoc]
    refine Conversation.heldBy_ask single fun _ => ?_
    cases known : hash.toString? with
    | none =>
      rw [inPath_of_unencodable known, s.client.getTransaction_of_unencodable _ filled known]
      exact Conversation.heldBy_fail _
    | some name =>
      obtain rfl := Text.toString?_eq_some_iff.mp known
      have filled : name ≠ "" := fun empty => filled (Text.coe_inj.mpr empty)
      rw [inPath_hash, getTransaction_eq filled]
      show (Conversation.ask _ _).HeldBy (_ >>= _ >>= _)
      rw [Action.bind_assoc]
      exact Conversation.heldBy_ask single fun data =>
        heldBy_read name blocks withResults watching data

/-- With a hash, the rest of a confirmation fails with something else than an error of the gateway
only where it is stranded. -/
theorem stranded_of_confirming {request : TransactionRequest} {withResults watching : Bool}
    {outcome : Outcome} {data : Json.Fields} {sent : List (Request τ × Option Outcome)}
    {failure : Failure τ} (other : ∀ e, failure ≠ .api e)
    (payload : (s.sending request watching).worth outcome = .ok data)
    (given : (Schema.sentHash data : Except (ApiError τ) Text) = .ok hash)
    (h : (s.confirming blocks withResults watching hash).Follows sent (.error failure)) :
    s.Stranded request blocks watching
      (((s.sending request watching).request, some outcome) :: sent) failure := by
  cases short : Decimal.isWritable blocks with
  | false =>
    rw [confirming, inPath_of_tooManyDigits short] at h
    cases h
    exact .count payload given short
  | true =>
    rw [confirming, inPath_count short] at h
    obtain ⟨made, _, rest, produced, rfl, reads⟩ := h.exists_answered other
    cases known : hash.toString? with
    | none =>
      rw [inPath_of_unencodable known] at reads
      cases reads
      exact .hash payload given short produced known
    | some name =>
      obtain rfl := Text.toString?_eq_some_iff.mp known
      rw [inPath_hash] at reads
      obtain ⟨_, _, _, -, -, decoded⟩ := reads.exists_answered other
      -- The transaction was asked for and answered. What is read of the answer fails with an error
      -- of the gateway at most.
      exact absurd decoded (Conversation.Follows.not_done other)

/-- A confirmation fails with something else than an error of the gateway exactly if it is
stranded. -/
theorem follows_error_iff {request : TransactionRequest} {withResults watching : Bool}
    {sent : List (Request τ × Option Outcome)} {failure : Failure τ}
    (other : ∀ e, failure ≠ .api e) :
    (s.confirmation request blocks withResults watching).Follows sent (.error failure) ↔
      s.Stranded request blocks watching sent failure := by
  constructor
  · intro h
    obtain ⟨_, _, _, payload, rfl, sent⟩ := h.exists_answered other
    obtain ⟨hash, given, confirms⟩ := sent.exists_read other
    exact stranded_of_confirming other payload given confirms
  · intro h
    cases h with
    | count payload given long =>
      refine .answered payload ?_
      rw [given]
      show (s.confirming ..).Follows _ _
      rw [confirming, inPath_of_tooManyDigits long]
      exact .done _
    | hash payload given short answered unknown =>
      refine .answered payload ?_
      rw [given]
      show (s.confirming ..).Follows _ _
      rw [confirming, inPath_count short]
      refine .answered answered ?_
      rw [inPath_of_unencodable unknown]
      exact .done _

/-- **The sending of a transaction that is then confirmed is the conversation of its three
requests**, in every world: whatever the policy of the client, the answers and the moment of a
cancellation. Nobody sleeps. It fails with an error of the gateway, unless it is stranded. -/
theorem confirmation_law {σ : Type} (w : World σ τ) (s : Simulator τ) (request : TransactionRequest)
    {blocks : Int} (positive : 1 ≤ blocks) (withResults watching : Bool) (st : σ) :
    let run := (s.sendAndConfirm request blocks withResults watching).runIn w st
    run.slept = [] ∧
      (s.confirmation request blocks withResults watching).Follows run.sent run.result ∧
      ∀ failure, (∀ e, failure ≠ .api e) →
        (run.result = .error failure ↔ s.Stranded request blocks watching run.sent failure) := by
  intro run
  have single : (RetryPolicy.single : RetryPolicy τ).maxAttempts ≤ 1 := Int.le_refl 1
  have held : (s.confirmation request blocks withResults watching).HeldBy
      (s.sendAndConfirm request blocks withResults watching) := by
    rw [sendAndConfirm_eq, sendTransaction_eq, Action.bind_assoc]
    refine Conversation.heldBy_ask single fun data => ?_
    exact Conversation.heldBy_lift fun hash given =>
      heldBy_confirming (s := s) (Schema.sentHash_ne_empty given) positive withResults watching
  obtain ⟨quiet, follows⟩ := held (Action.traces_runIn _ w st)
  refine ⟨quiet, follows, fun failure other => ?_⟩
  have stranded : (s.confirmation request blocks withResults watching).Follows run.sent
      (.error failure) ↔ s.Stranded request blocks watching run.sent failure :=
    follows_error_iff other
  rw [← stranded]
  exact ⟨fun failed => failed ▸ follows, follows.unique⟩

section OnThisMachine

/-- A transaction to be sent to the simulator of this machine. -/
def localTransaction : TransactionRequest := ⟨Bytes.ofText "\x7b\x7d", "drt1", none⟩

/-- The simulator of this machine. -/
def onThisMachine : Simulator Float := ⟨.onThisMachine, rfl⟩

/-- An answer with a payload. -/
def payloadReply (data : String) : Reply Float :=
  { answer := some (.response
      { status := 200
        content := Bytes.ofText ("\x7b\"data\":" ++ data
          ++ ",\"error\":\"\",\"code\":\"successful\"\x7d") })
    advance := 0.25 }

/-- The simulator takes a transaction, produces two blocks, and has the transaction still pending
then. -/
def pendingRun : Run (Script Float) Float (Except (Failure Float) TransactionOnNetwork) :=
  (onThisMachine.sendAndConfirm localTransaction 2 true true).runIn Script.world
    { now := 0.0
      replies := [
        payloadReply "\x7b\"txHash\":\"a/b\"\x7d",
        payloadReply "\x7b\x7d",
        payloadReply ("\x7b\"transaction\":\x7b\"sender\":\"drt1\",\"receiver\":\"drt2\","
          ++ "\"nonce\":7,\"value\":\"1\",\"status\":\"pending\"\x7d\x7d")] }

/-- Such a transaction is sent, produced for and read, once each. -/
theorem confirmation_law_pending : (1 : Int) ≤ 2 ∧ pendingRun.slept = [] ∧
    pendingRun.sent.map (·.1.url) = [
      "http://localhost:8085/transaction/send",
      "http://localhost:8085/simulator/generate-blocks/2",
      "http://localhost:8085/transaction/a%2Fb?withResults=true"] ∧
    ∃ tx, pendingRun.result = .ok tx ∧
      (onThisMachine.confirmation localTransaction 2 true true).Follows pendingRun.sent
        (.ok tx) := by
  have positive : (1 : Int) ≤ 2 := by decide
  have found : pendingRun.result.toOption.map (fun _ => ()) = some () := by decide +kernel
  obtain ⟨quiet, follows, -⟩ := confirmation_law Script.world onThisMachine
    localTransaction positive true true { now := 0.0, replies := _ }
  change (onThisMachine.confirmation localTransaction 2 true true).Follows pendingRun.sent
    pendingRun.result at follows
  obtain ⟨tx, ok, -⟩ := exists_of_toOption found
  exact ⟨positive, quiet, by decide +kernel, tx, ok, ok ▸ follows⟩

/-- The simulator takes a transaction and answers with a surrogate for its hash. -/
def strandedRun : Run (Script Float) Float (Except (Failure Float) TransactionOnNetwork) :=
  (onThisMachine.sendAndConfirm localTransaction 1 false false).runIn Script.world
    { now := 0.0
      replies := [payloadReply "\x7b\"txHash\":\"\\ud800\"\x7d", payloadReply "\x7b\x7d"] }

/-- The text that kept a run from going on. -/
def unencodable? {α : Type} : Except (Failure τ) α → Option Text
  | .error (.unencodable text) => some text
  | _ => none

/-- The transaction is sent and a block is produced, but it is never read. There is neither a result
nor an error of the gateway. -/
theorem confirmation_stranded : (1 : Int) ≤ 1 ∧
    strandedRun.sent.map (·.1.url) = [
      "http://localhost:8085/transaction/send",
      "http://localhost:8085/simulator/generate-blocks/1"] ∧
    ¬ ((∃ tx, strandedRun.result = .ok tx) ∨ ∃ e, strandedRun.result = .error (.api e)) := by
  -- The run is evaluated up to its end, and the text that it fails with is the hash.
  have text : unencodable? strandedRun.result = some ⟨[.surrogate 0]⟩ := by decide +kernel
  refine ⟨by decide, by decide +kernel, ?_⟩
  rintro (⟨tx, ok⟩ | ⟨e, failed⟩)
  · rw [ok] at text
    cases text
  · rw [failed] at text
    cases text

end OnThisMachine

end Simulator
end GatewayClient
