import GatewayClient.Proofs.Client.RetryLaw
import GatewayClient.Proofs.Program.Ensures
import GatewayClient.Proofs.Schema.Decoding

/-!
# What calls ask for, and how they fail

A client asks for nothing but routes of its catalog (`Event.Routed`). Two operations send
transactions. Every other one asks for something else (`Catalog.isBroadcast_eq_false`), whatever its
arguments are.

**A call behaves** (`Client.behaves_call`): it asks for a route of its operation, and fails only
with an error of the gateway, or with a delay beyond the scale where its policy comes to one.
-/

set_option autoImplicit false

namespace GatewayClient

/-! ## Requests that send transactions -/

/-- The paths that transactions are sent to. -/
def broadcastPaths : List String := ["/transaction/send", "/transaction/send-multiple"]

/-- The request sends transactions to the gateway of a base URL. -/
def Request.isBroadcast {τ : Type} (baseUrl : String) (r : Request τ) : Bool :=
  r.method == .post && broadcastPaths.any fun path => r.url == baseUrl ++ path

/-- The step sends no transactions. -/
def Event.Spares {τ : Type} (baseUrl : String) : Event τ → Prop
  | .sent request _ => request.isBroadcast baseUrl = false
  | _ => True

/-- The operation sends transactions. -/
def Operation.broadcasts : Operation → Bool
  | .sendTransaction | .sendTransactions => true
  | _ => false

/-- Every operation is known by its name. -/
theorem Operation.ofName?_name (op : Operation) : ofName? op.name = some op := by
  cases op <;> decide

/-- An operation that is found by a name has that name. -/
theorem Operation.name_of_ofName? {name : String} {op : Operation}
    (found : ofName? name = some op) : op.name = name := by
  have same := List.find?_some found
  exact beq_iff_eq.mp same

/-! ## Values in paths -/

namespace PathValue

/-- The value can be written. -/
def isWritable (value : PathValue) : Bool := value.asText.isOk

/-- The value fills its slot: it is there, and it can be written. -/
def fills (value : PathValue) : Bool := !value.isMissing && value.isWritable

/-- What is written of the value, which is nothing if it cannot be written. -/
def written (value : PathValue) : String := value.asText.toOption.getD ""

variable {value : PathValue} {s : String} {t : Text} {n : Int}

/-- A value fills its slot if it is there and can be written. -/
theorem fills_iff : value.fills = true ↔ value.isMissing = false ∧ value.isWritable = true := by
  simp [fills]

/-- A value that can be written is written. -/
theorem asText_of_isWritable (writable : value.isWritable = true) :
    value.asText = .ok value.written := by
  unfold isWritable written at *
  cases same : value.asText with
  | ok s => rfl
  | error fault =>
    rw [same] at writable
    cases writable

/-- A text can be written if it is a string. -/
theorem isWritable_text : (text t).isWritable = t.toString?.isSome := by
  rw [isWritable, asText]
  cases t.toString? <;> rfl

/-- A whole number can be written if it has few enough digits. -/
theorem isWritable_int : (int n).isWritable = Decimal.isWritable n := by
  rw [isWritable, asText, Decimal.writeWhole?]
  cases Decimal.isWritable n <;> rfl

/-- A string is written as it is. -/
theorem asText_string (s : String) : (text s).asText = .ok s := by
  rw [asText, Text.toString?_coe]

/-- A whole number with few enough digits is written in decimal. -/
theorem asText_int (short : Decimal.isWritable n = true) : (int n).asText = .ok (toString n) := by
  rw [asText, Decimal.writeWhole?, if_pos short]

theorem isWritable_string (s : String) : (text s).isWritable = true := by
  rw [isWritable, asText_string]
  rfl

theorem isMissing_text (filled : t ≠ "") : (text t).isMissing = false := by
  rwa [isMissing, Bool.eq_false_iff, ne_eq, Text.isEmpty_iff]

/-- A text that is not empty fills its slot, if it is a string. -/
theorem fills_text (filled : t ≠ "") (known : t.toString?.isSome = true) :
    (text t).fills = true := by
  rw [fills_iff, isWritable_text]
  exact ⟨isMissing_text filled, known⟩

/-- A string that is not empty fills its slot. -/
theorem fills_string (filled : s ≠ "") : (text s).fills = true :=
  fills_text (Text.filled_coe filled) (Text.isSome_toString?_coe s)

/-- A whole number fills its slot, if it can be written. -/
theorem fills_int (short : Decimal.isWritable n = true) : (int n).fills = true := by
  rw [fills_iff, isWritable_int]
  exact ⟨rfl, short⟩

theorem written_string (s : String) : (text s).written = s := by
  rw [written, asText_string]
  rfl

theorem written_int (short : Decimal.isWritable n = true) : (int n).written = toString n := by
  rw [written, asText_int short]
  rfl

/-- A whole number with too many digits is not written. -/
theorem asText_of_tooManyDigits (long : Decimal.isWritable n = false) :
    (int n).asText = .error .tooManyDigits := by
  rw [asText, Decimal.writeWhole?, long]
  rfl

/-- A text with a surrogate is not written. -/
theorem asText_of_unencodable (unknown : t.toString? = Option.none) :
    (text t).asText = .error (.unencodable t) := by
  rw [asText, unknown]

end PathValue

/-- Where every value can be written, so can the value of a slot: nothing stands for one that is not
there. -/
theorem PathValues.isWritable_get {values : PathValues}
    (all : ∀ value ∈ values, value.2.isWritable = true) (name : String) :
    (values.get name).isWritable = true := by
  unfold PathValues.get
  cases found : values.find? fun value => value.1 == name with
  | none => rfl
  | some value => exact all value (List.mem_of_find?_eq_some found)

/-! ## Paths -/

/-- A segment with values in its slots. -/
def Segment.spelled (values : PathValues) : Segment → String
  | .fixed text => text
  | .slot name => Percent.encode (values.get name).written

/-- The path of a template with values in its slots. -/
def Template.path (t : Template) (values : PathValues) : String :=
  String.join (t.segments.map fun segment => "/" ++ segment.spelled values)

/-- The slots of a template are those among its segments. -/
theorem Template.mem_slots {t : Template} {name : String} :
    name ∈ t.slots ↔ .slot name ∈ t.segments := by
  unfold slots
  rw [List.mem_filterMap]
  constructor
  · rintro ⟨segment, mem, same⟩
    cases segment with
    | fixed text => cases same
    | slot other => exact Option.some_inj.mp same ▸ mem
  · intro mem
    exact ⟨.slot name, mem, rfl⟩

/-- The characters of a path are those of its segments, each behind a slash. -/
theorem Template.toList_path (t : Template) (values : PathValues) :
    (t.path values).toList =
      t.segments.flatMap fun segment => '/' :: (segment.spelled values).toList := by
  rw [path, String.toList_join, List.flatMap_map]
  congr 1
  funext segment
  rw [String.toList_append]
  rfl

/-! ## Routes -/

namespace Catalog

variable {values : PathValues} {segment : Segment} {segments : List Segment} {t : Template}

/-- A segment is written, unless its value cannot be. -/
theorem fillSegment_cases (values : PathValues) (segment : Segment) :
    ((∀ name, segment = .slot name → (values.get name).isWritable = true) ∧
        fillSegment values segment = .ok (segment.spelled values)) ∨
      ∃ name fault, segment = .slot name ∧ (values.get name).asText = .error fault ∧
        fillSegment values segment = .error fault := by
  cases segment with
  | fixed text => exact .inl ⟨nofun, rfl⟩
  | slot name =>
    cases text : (values.get name).asText with
    | ok s =>
      have writable : (values.get name).isWritable = true := by
        rw [PathValue.isWritable, text]
        rfl
      refine .inl ⟨fun other same => Segment.slot.inj same ▸ writable, ?_⟩
      rw [fillSegment, PathValue.asText_of_isWritable writable]
      rfl
    | error fault => exact .inr ⟨name, fault, rfl, text, by rw [fillSegment, text]; rfl⟩

/-- Segments are written one after the other, up to the first value that cannot be. -/
theorem mapM_fillSegment_cases (values : PathValues) (segments : List Segment) :
    ((∀ name, .slot name ∈ segments → (values.get name).isWritable = true) ∧
        segments.mapM (fillSegment values) = .ok (segments.map (·.spelled values))) ∨
      ∃ name fault, .slot name ∈ segments ∧ (values.get name).asText = .error fault ∧
        segments.mapM (fillSegment values) = .error fault := by
  induction segments with
  | nil => exact .inl ⟨nofun, rfl⟩
  | cons segment rest ih =>
    rw [List.mapM_cons]
    rcases fillSegment_cases values segment with
      ⟨own, written⟩ | ⟨name, fault, rfl, fails, unwritten⟩
    · rw [written]
      rcases ih with ⟨others, more⟩ | ⟨name, fault, mem, fails, unwritten⟩
      · rw [more]
        refine .inl ⟨fun name mem => ?_, rfl⟩
        exact (List.mem_cons.mp mem).elim (fun same => own name same.symm) (others name)
      · rw [unwritten]
        exact .inr ⟨name, fault, .tail _ mem, fails, rfl⟩
    · rw [unwritten]
      exact .inr ⟨name, fault, .head _, fails, rfl⟩

/-- A path is written, unless a value in it cannot be. -/
theorem fillPath_cases (t : Template) (values : PathValues) :
    ((∀ name ∈ t.slots, (values.get name).isWritable = true) ∧
        fillPath t values = .ok (t.path values)) ∨
      ∃ name ∈ t.slots, ∃ fault, (values.get name).asText = .error fault ∧
        fillPath t values = .error fault := by
  unfold fillPath
  rcases mapM_fillSegment_cases values t.segments with
    ⟨writable, written⟩ | ⟨name, fault, mem, fails, unwritten⟩
  · refine .inl ⟨fun name mem => writable name (Template.mem_slots.mp mem), ?_⟩
    rw [written, Except.map, List.map_map]
    rfl
  · exact .inr ⟨name, Template.mem_slots.mpr mem, fault, fails, by rw [unwritten]; rfl⟩

/-- A call has a route if the catalog has its operation and every slot of its path is filled. -/
theorem route_eq_ok_iff {c : Catalog} {op : Operation} {values : PathValues} {query : Query}
    {route : Route} : c.route op values query = .ok route ↔
      (op.simulatorOnly = true → c.simulator = true) ∧
      (∀ name ∈ (template c.version op).slots, (values.get name).fills = true) ∧
      route = ⟨(template c.version op).method, (template c.version op).path values, query⟩ := by
  unfold Catalog.route
  dsimp only
  split
  next lacks =>
    obtain ⟨needs, lacks⟩ := Bool.and_eq_true_iff.mp lacks
    refine ⟨nofun, fun ⟨available, _⟩ => ?_⟩
    rw [available needs] at lacks
    cases lacks
  next has =>
    have available : op.simulatorOnly = true → c.simulator = true := by simpa using has
    -- A slot is checked to be there before any value is written.
    have none_missing : ((template c.version op).slots.filter fun name =>
        (values.get name).isMissing).isEmpty = true ↔
          ∀ name ∈ (template c.version op).slots, (values.get name).isMissing = false := by
      simp [List.isEmpty_iff, List.filter_eq_nil_iff]
    split
    next filled =>
      rcases fillPath_cases (template c.version op) values with
        ⟨writable, written⟩ | ⟨name, mem, fault, fails, unwritten⟩
      · rw [written, Except.ok.injEq, eq_comm]
        exact ⟨fun same => ⟨available, fun name mem => PathValue.fills_iff.mpr
          ⟨none_missing.mp filled name mem, writable name mem⟩, same⟩, fun h => h.2.2⟩
      · rw [unwritten]
        refine ⟨nofun, fun h => ?_⟩
        have writable := (PathValue.fills_iff.mp (h.2.1 name mem)).2
        rw [PathValue.isWritable, fails] at writable
        cases writable
    next missing =>
      exact ⟨nofun, fun h => absurd (none_missing.mpr fun name mem =>
        (PathValue.fills_iff.mp (h.2.1 name mem)).1) missing⟩

/-- Where a call has no route, that is a fatal error, or a value of its path cannot be written. -/
theorem toFailure_of_route {τ : Type} {c : Catalog} {op : Operation} {values : PathValues}
    {query : Query} {fault : RouteFault} (h : c.route op values query = .error fault) :
    (∃ message, (fault.toFailure : Failure τ) = .api { kind := .fatal, message }) ∨
      ∃ name ∈ (template c.version op).slots, ∃ fault', (values.get name).asText = .error fault' ∧
        fault = .unwritable fault' := by
  unfold Catalog.route at h
  dsimp only at h
  split at h
  next =>
    cases h
    exact .inl ⟨_, rfl⟩
  next =>
    split at h
    next =>
      rcases fillPath_cases (template c.version op) values with
        ⟨-, written⟩ | ⟨name, mem, fault', fails, unwritten⟩
      · rw [written] at h
        cases h
      · rw [unwritten] at h
        cases h
        exact .inr ⟨name, mem, fault', fails, rfl⟩
    next =>
      cases h
      exact .inl ⟨_, rfl⟩

/-- The route of a call is read off the template of its operation. -/
theorem eq_of_route_eq_ok {c : Catalog} {op : Operation} {values : PathValues} {query : Query}
    {route : Route} (resolves : c.route op values query = .ok route) :
    route = ⟨(template c.version op).method, (template c.version op).path values, query⟩ :=
  (route_eq_ok_iff.mp resolves).2.2

/-- A call has a route if its operation is there for the client and its values fill the slots. -/
theorem exists_route {c : Catalog} {op : Operation} {values : PathValues} (query : Query)
    (available : op.simulatorOnly = true → c.simulator = true)
    (filled : ∀ name ∈ (template c.version op).slots, (values.get name).fills = true) :
    ∃ route, c.route op values query = .ok route :=
  ⟨_, route_eq_ok_iff.mpr ⟨available, filled, rfl⟩⟩

/-- A path without slots needs no values. -/
theorem exists_route_fixed {c : Catalog} {op : Operation} (query : Query)
    (fixed : (template c.version op).slots = [])
    (available : op.simulatorOnly = true → c.simulator = true) :
    ∃ route, c.route op [] query = .ok route := by
  refine exists_route query available ?_
  rw [fixed]
  exact nofun

/-- A path with one slot needs one value. -/
theorem exists_route_slot {c : Catalog} {op : Operation} {name : String} {value : PathValue}
    (query : Query) (slot : (template c.version op).slots = [name])
    (real : op.simulatorOnly = false) (filled : value.fills = true) :
    ∃ route, c.route op [(name, value)] query = .ok route := by
  refine exists_route query (by rw [real]; exact nofun) ?_
  rw [slot]
  have found : PathValues.get [(name, value)] name = value := by simp [PathValues.get]
  refine List.forall_mem_singleton.mpr ?_
  rw [found]
  exact filled

/-- A value that cannot be written leaves a path with one slot without route. -/
theorem route_of_unwritable {c : Catalog} {op : Operation} {name : String} {value : PathValue}
    {fault : WritingFault} (query : Query) (slot : (template c.version op).slots = [name])
    (available : op.simulatorOnly = true → c.simulator = true)
    (fails : value.asText = .error fault) (given : value.isMissing = false) :
    c.route op [(name, value)] query = .error (.unwritable fault) := by
  have found : PathValues.get [(name, value)] name = value := by simp [PathValues.get]
  have has : ¬ (op.simulatorOnly && !c.simulator) = true := by simpa using available
  have filled : ([name].filter fun other =>
      (PathValues.get [(name, value)] other).isMissing).isEmpty = true := by
    simp [found, given]
  unfold Catalog.route
  rw [if_neg has]
  dsimp only
  rw [slot, if_pos filled]
  rcases fillPath_cases (template c.version op) [(name, value)] with
    ⟨writable, -⟩ | ⟨other, mem, other_fault, other_fails, unwritten⟩
  · have can := writable name (slot ▸ .head _)
    rw [found, PathValue.isWritable, fails] at can
    cases can
  · rw [slot] at mem
    obtain rfl := List.mem_singleton.mp mem
    rw [found, fails] at other_fails
    cases other_fails
    rw [unwritten]

/-- The path of a key of an account needs both. -/
theorem exists_route_key {c : Catalog} {address key : String} (named : address ≠ "")
    (filled : key ≠ "") :
    ∃ route, c.route .accountStorageKey [("address", .text address), ("key", .text key)] [] =
      .ok route := by
  refine exists_route [] nofun (List.forall_mem_cons.mpr ⟨PathValue.fills_string named, ?_⟩)
  exact List.forall_mem_singleton.mpr (PathValue.fills_string filled)

/-- A URL whose path differs from another path in its first characters is another one, with or
without a query. -/
theorem url_ne {t : Template} {values : PathValues} {method : Method} {query : Query}
    {baseUrl path : String} (differ : ∀ more, (t.segments.flatMap fun segment =>
      '/' :: (segment.spelled values).toList) ++ more ≠ path.toList) :
    Route.url baseUrl ⟨method, t.path values, query⟩ ≠ baseUrl ++ path := by
  intro same
  rw [Route.url, String.append_assoc, String.append_right_inj, ← String.toList_inj,
    String.toList_append, Template.toList_path] at same
  exact differ _ same

/-- An operation that sends no transactions makes no request that does, whatever its arguments. -/
theorem isBroadcast_eq_false {τ : Type} {c : Catalog} {op : Operation} {values : PathValues}
    {query : Query} {route : Route} (resolves : c.route op values query = .ok route)
    (other : op.broadcasts = false) (baseUrl : String) (body : Option Bytes) (timeout : τ) :
    Request.isBroadcast baseUrl ⟨route.method, route.url baseUrl, body, timeout⟩ = false := by
  obtain ⟨version, simulator⟩ := c
  rw [eq_of_route_eq_ok resolves]
  by_cases posts : (template version op).method = .post
  · have apart : ∀ path ∈ broadcastPaths, ∀ more, ((template version op).segments.flatMap
        fun segment => '/' :: (segment.spelled values).toList) ++ more ≠ path.toList := by
      cases op with
      | sendTransaction | sendTransactions => cases other
      | transactionCost | vmQuery | simulatorGenerateBlocks | simulatorGenerateUntilTx
      | simulatorGenerateUntilEpoch | simulatorSetState =>
        simp [template, Segment.spelled, broadcastPaths]
      | _ => cases version <;> cases posts
    rw [Request.isBroadcast, Bool.and_eq_false_iff, List.any_eq_false]
    refine .inr fun path listed => ?_
    rw [beq_iff_eq]
    exact url_ne (apart path listed)
  · rw [Request.isBroadcast, Bool.and_eq_false_iff, beq_eq_false_iff_ne]
    exact .inl posts

end Catalog

variable {τ : Type} [TimeScale τ]

/-! ## Expected failures -/

/-- The failures that are expected of an operation: errors of the gateway, delays beyond the scale
where the policy comes to one, and a refusal of arguments that are not valid, or cannot be
written. -/
def Failure.Expected (valid : Prop) (p : RetryPolicy τ) : Failure τ → Prop
  | .api _ => True
  | .argument _ | .unencodable _ => ¬ valid
  | .overflow _ => p.Overflows
  | .undecodable _ => False

/-- More is expected where the arguments may be worse and the policy may overflow. -/
theorem Failure.Expected.imp {valid valid' : Prop} {p p' : RetryPolicy τ} {failure : Failure τ}
    (h : failure.Expected valid p) (weaker : valid' → valid)
    (overflows : p.Overflows → p'.Overflows) :
    failure.Expected valid' p' := by
  cases failure with
  | api e => trivial
  | argument _ | unencodable _ => exact fun holds => h (weaker holds)
  | overflow cause => exact overflows h
  | undecodable what => exact h

/-- A call without a route fails as expected, if valid values can be written. -/
theorem Catalog.expected_of_route {c : Catalog} {op : Operation} {values : PathValues}
    {query : Query} {fault : RouteFault} (h : c.route op values query = .error fault) {valid : Prop}
    (writable : valid → ∀ name ∈ (template c.version op).slots,
      (values.get name).isWritable = true) (p : RetryPolicy τ) :
    (fault.toFailure : Failure τ).Expected valid p := by
  rcases toFailure_of_route (τ := τ) h with ⟨message, same⟩ | ⟨name, mem, fault, fails, rfl⟩
  · rw [same]
    trivial
  · have invalid : ¬ valid := fun holds => by
      have can := writable holds name mem
      rw [PathValue.isWritable, fails] at can
      cases can
    cases fault <;> exact invalid

/-- A call fails as expected, in each of its rounds. -/
theorem Call.Rounds.expected {c : Call τ} {started : τ} {made : Nat} {log : Log τ}
    {r : Except (Failure τ) Json.Fields} (h : c.Rounds started made log r) (valid : Prop) :
    Action.Meets (Failure.Expected valid c.policy) (fun _ => True) r := by
  induction h with
  | stopped _ | abandoned _ | answered _ | refused _ _ | gaveUp _ _ | interrupted _ _ _ => trivial
  | overflowed _ unspent capped =>
    exact ⟨_, _, _, _, unspent, RetryPolicy.cappedDelay_eq_error.mp capped⟩
  | again _ _ _ _ ih => exact ih

/-- A call asks for nothing but its request. -/
theorem Call.ensures_run {c : Call τ} {P : Event τ → Prop} (silent : ∀ e, e.sent? = none → P e)
    (asks : ∀ answer, P (.sent c.request answer)) (valid : Prop) :
    c.run.Ensures P (Failure.Expected valid c.policy) fun _ => True := by
  intro log r traces
  obtain ⟨started, rest, rfl, rounds⟩ := rounds_of_traces_run traces
  refine ⟨List.forall_mem_cons.mpr ⟨silent _ rfl, fun e mem => ?_⟩, rounds.expected valid⟩
  cases sent : e.sent? with
  | none => exact silent e sent
  | some call =>
    cases e with
    | sent request answer =>
      have same : request = c.request :=
        rounds.alternates.request_eq (request, answer) (List.mem_filterMap.mpr ⟨_, mem, rfl⟩)
      exact same ▸ asks answer
    | slept _ | clock _ | cancelled _ | drew _ _ | warned _ => cases sent

/-- A call that allows a single attempt makes its request, and draws nothing. -/
theorem Call.keeps_run {c : Call τ} {P : Event τ → Prop} (single : c.policy.maxAttempts ≤ 1)
    (asks : ∀ answer, P (.sent c.request answer))
    (others : ∀ e, e.sent? = none → e.isDraw = false → P e) : Program.Keeps P c.run.run := by
  intro log r traces
  have reads (now : τ) : P (.clock now) := others _ rfl rfl
  have looks (isSet : Bool) : P (.cancelled isSet) := others _ rfl rfl
  have asked (outcome : Outcome) : ∀ e ∈ c.asked outcome, P e := by
    unfold asked Action.lookLog
    split <;> simp [asks, looks]
  obtain ⟨started, log, rfl, rounds⟩ := rounds_of_traces_run traces
  refine List.forall_mem_cons.mpr ⟨reads started, ?_⟩
  cases rounds with
  | stopped _ | abandoned _ => simp [asks, looks]
  | answered _ | refused _ _ => exact asked _
  | gaveUp _ _ | overflowed _ _ _ =>
    exact List.forall_mem_append.mpr ⟨asked _, by simp [reads]⟩
  | interrupted _ next _ | again _ next _ _ =>
    exact absurd next (RetryPolicy.nextDelay_ne_some single)

/-! ## What is asked for -/

/-- The request is one that a client makes of an allowed operation, for some values and a query. -/
def Client.Asks (c : Client τ) (allowed : Operation → Prop) (request : Request τ) : Prop :=
  ∃ op values query route body, allowed op ∧ c.config.catalog.route op values query = .ok route ∧
    request = ⟨route.method, route.url c.config.baseUrl, body, c.config.timeout⟩

namespace Event

/-- The step asks for nothing but allowed operations of a client. -/
def Routed (c : Client τ) (allowed : Operation → Prop) : Event τ → Prop
  | .sent request _ => c.Asks allowed request
  | _ => True

namespace Routed

variable {c : Client τ} {allowed : Operation → Prop} {e : Event τ}

/-- Whatever is no request asks for nothing. -/
theorem of_silent (h : e.sent? = none) : e.Routed c allowed := by
  cases e with
  | sent _ _ => cases h
  | slept _ | clock _ | cancelled _ | drew _ _ | warned _ => trivial

/-- A step that asks for nothing but allowed operations makes such a request. -/
theorem asks (h : e.Routed c allowed) {call : Request τ × Option Outcome}
    (sent : e.sent? = some call) : c.Asks allowed call.1 := by
  cases e with
  | sent request answer =>
    cases sent
    exact h
  | slept _ | clock _ | cancelled _ | drew _ _ | warned _ => cases sent

theorem mono {allowed' : Operation → Prop} (h : e.Routed c allowed)
    (allows : ∀ op, allowed op → allowed' op) : e.Routed c allowed' := by
  cases e with
  | sent request answer =>
    obtain ⟨op, values, query, route, body, allow, resolves, same⟩ := h
    exact ⟨op, values, query, route, body, allows op allow, resolves, same⟩
  | slept _ | clock _ | cancelled _ | drew _ _ | warned _ => trivial

/-- What asks for no operation that sends transactions sends none. -/
theorem spares (h : e.Routed c fun op => op.broadcasts = false) : e.Spares c.config.baseUrl := by
  cases e with
  | sent request answer =>
    obtain ⟨op, values, query, route, body, other, resolves, rfl⟩ := h
    exact Catalog.isBroadcast_eq_false resolves other c.config.baseUrl body c.config.timeout
  | slept _ | clock _ | cancelled _ | drew _ _ | warned _ => trivial

end Routed

omit [TimeScale τ] in
/-- The step, if it asks for something, has a certain body. -/
def Bears (body : Option Bytes) (e : Event τ) : Prop :=
  ∀ call, e.sent? = some call → call.1.body = body

omit [TimeScale τ] in
/-- A step that asks for nothing has no body to differ from. -/
theorem Bears.of_silent {body : Option Bytes} {e : Event τ} (h : e.sent? = none) : e.Bears body :=
  fun _ asks => nomatch h.symm.trans asks

omit [TimeScale τ] in
theorem Bears.of_request {request : Request τ} {answer : Option Outcome} :
    (Event.sent request answer).Bears request.body := by
  rintro call ⟨⟩
  rfl

end Event

omit [TimeScale τ] in
/-- The requests have the body that the steps have. -/
theorem Action.Ensures.body_of_sent {α : Type} {x : Action τ α} {body : Option Bytes}
    {F : Failure τ → Prop} {R : α → Prop} (h : x.Ensures (Event.Bears body) F R) {log : Log τ}
    {r : Except (Failure τ) α} (traces : x.Traces log r) :
    ∀ call ∈ log.sent, call.1.body = body := by
  intro call asked
  obtain ⟨e, mem, same⟩ := List.mem_filterMap.mp asked
  exact (h traces).1 e mem call same

/-! ## The calls of a client -/

namespace Client

variable (c : Client τ) {op : Operation}

/-- A call asks for nothing but the route of its operation, and fails as expected. -/
theorem ensures_call {P : Event τ → Prop} (silent : ∀ e, e.sent? = none → P e)
    (values : PathValues) (query : Query) (body : Option Bytes) (idempotent : Bool)
    (o : CallOptions τ) {valid : Prop}
    (writable : valid → ∀ name ∈ (template c.config.apiVersion op).slots,
      (values.get name).isWritable = true)
    (asks : ∀ route, c.config.catalog.route op values query = .ok route →
      ∀ answer, P (.sent (c.callFor op route body idempotent o).request answer)) :
    (c.call op values query body idempotent o).Ensures P
      (Failure.Expected valid (if idempotent then c.policyFor o else .single)) fun _ => True := by
  cases resolves : c.config.catalog.route op values query with
  | error fault =>
    rw [call, resolves]
    exact .bind (R := fun _ => False) (.fail (Catalog.expected_of_route resolves writable _))
      fun _ none => none.elim
  | ok route =>
    rw [call_eq_run resolves]
    exact Call.ensures_run silent (asks route resolves) valid

omit [TimeScale τ] c in
/-- An argument that is empty is refused. -/
theorem require_of_empty {name value : String} (empty : value = "") :
    (require name value : Action τ Unit) = Action.refuse (.empty name) :=
  if_pos (Text.isEmpty_iff.mpr (Text.coe_inj.mpr empty))

omit [TimeScale τ] c in
/-- An argument that is not empty is taken. -/
theorem require_of_filled {name : String} {value : Text} (filled : value ≠ "") :
    (require name value : Action τ Unit) = pure () :=
  if_neg (mt Text.isEmpty_iff.mp filled)

/-- A value that cannot be written keeps a call from asking for anything. -/
theorem call_of_unwritable {name : String} {value : PathValue} {fault : WritingFault}
    (slot : (template c.config.apiVersion op).slots = [name])
    (available : op.simulatorOnly = true → c.config.simulator = true)
    (fails : value.asText = .error fault) (given : value.isMissing = false) (query : Query)
    (body : Option Bytes) (idempotent : Bool) (o : CallOptions τ) :
    c.call op [(name, value)] query body idempotent o = Action.fail fault.toFailure := by
  rw [call, Catalog.route_of_unwritable (c := c.config.catalog) query slot available fails given]
  rfl

omit [TimeScale τ] c in
/-- What follows the check of a payload may rely on the check. -/
theorem ensures_validate {P : Event τ → Prop} {F : Failure τ → Prop} (schema : Schema)
    (what : String) (j : Json) (fails : ∀ e, F (.api e)) :
    (validate schema what j).Ensures P F fun _ => schema.Fits j :=
  .lift (fun _ passes => Schema.validate_eq_ok_iff.mp passes) fun e _ => fails e

/-- An operation of a client asks for nothing that sends transactions, fails as expected where the
policy is in force, and has results of some kind. -/
abbrev Behaves {α : Type} (c : Client τ) (p : RetryPolicy τ) (valid : Prop) (x : Action τ α)
    (R : α → Prop) : Prop :=
  x.Ensures (Event.Routed c fun op => op.broadcasts = false) (Failure.Expected valid p) R

/-- A call of any operation but the two behaves. -/
theorem behaves_call (other : op.broadcasts = false) (values : PathValues) (query : Query)
    (body : Option Bytes) (idempotent : Bool) (o : CallOptions τ) {valid : Prop}
    (writable : valid → ∀ name ∈ (template c.config.apiVersion op).slots,
      (values.get name).isWritable = true) :
    c.Behaves (if idempotent then c.policyFor o else .single) valid
      (c.call op values query body idempotent o) fun _ => True := by
  refine c.ensures_call (fun _ => .of_silent) values query body idempotent o writable ?_
  intro route resolves answer
  exact ⟨op, values, query, route, body, other, resolves, rfl⟩

end Client
end GatewayClient
