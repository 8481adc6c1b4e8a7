import GatewayClient.Proofs.Client.Attempts
import GatewayClient.Proofs.Endpoint.Paths
import Mathlib.Data.List.Forall2

/-!
# The request line determines the request

What a request asks for can be read from its method and its URL (`Request.Spells`). The path falls
into the segments of the operation's template, and a value is decoded from the segment of its slot.

**No two operations share a request line** (`eq_of_meet_template`): wherever two templates of one
scheme have the same method and as many segments, two fixed segments differ. So two calls by name
that put the same method and URL on the wire are calls of one operation, with the same values and
the same query (`Client.request_line_law`).
-/

set_option autoImplicit false

namespace GatewayClient

/-! ## Segments -/

namespace Segment

/-- The characters that a value must not bring into a path. -/
def separators : List Char := ['/', '?', '#', '{', '}']

/-- The characters stand for a segment with values in slots. -/
inductive Spells (values : PathValues) : Segment → List Char → Prop
  | fixed (text : String) : Spells values (.fixed text) text.toList
  | slot {name text : String} {chars : List Char} (filled : chars ≠ [])
      (free : ∀ c ∈ separators, c ∉ chars) (writes : (values.get name).asText = .ok text)
      (reads : Percent.decode? chars = some text) :
      Spells values (.slot name) chars

/-- Two segments may be written alike. -/
def meets : Segment → Segment → Bool
  | .fixed text, .fixed other => text == other
  | _, _ => true

/-- Two paths may be written alike. -/
def meetAll : List Segment → List Segment → Bool
  | [], [] => true
  | segment :: segments, other :: others => segment.meets other && meetAll segments others
  | _, _ => false

variable {values others : PathValues} {segment other : Segment} {segments rest : List Segment}
  {chars : List Char} {written : List (List Char)}

/-- A segment whose slot is filled is spelled by what is written. -/
theorem spells_written
    (filled : ∀ name, segment = .slot name → (values.get name).fills = true) :
    segment.Spells values (segment.written values) := by
  cases segment with
  | fixed text => exact .fixed text
  | slot name =>
    obtain ⟨given, writable⟩ := PathValue.fills_iff.mp (filled name rfl)
    have writes := PathValue.asText_of_isWritable writable
    have named : (values.get name).written ≠ "" := fun empty =>
      PathValue.asText_ne_empty given (empty ▸ writes)
    refine .slot (Percent.encode_ne_nil named) (fun c separator => ?_) writes
      (Percent.decode?_encode _)
    have unwritten : separators.all (Percent.isWritten · == false) = true := by decide
    exact Percent.not_mem_encode (beq_iff_eq.mp (List.all_eq_true.mp unwritten c separator))

/-- Segments that spell the same meet. -/
theorem Spells.meets (h : segment.Spells values chars) (h' : other.Spells others chars) :
    segment.meets other = true := by
  cases h with
  | slot => rfl
  | fixed text =>
    generalize same : text.toList = chars at h'
    cases h' with
    | slot => rfl
    | fixed other => exact beq_iff_eq.mpr (String.toList_inj.mp same)

/-- Paths that spell the same meet segment by segment. -/
theorem meetAll_of_spells (h : List.Forall₂ (Spells values) segments written)
    (h' : List.Forall₂ (Spells others) rest written) : meetAll segments rest = true := by
  induction h generalizing rest with
  | nil =>
    cases h'
    rfl
  | cons own _ ih =>
    cases h' with
    | cons own' later => exact Bool.and_eq_true_iff.mpr ⟨own.meets own', ih later⟩

/-- What is written in its slot determines the text of a value. -/
theorem asText_eq_of_spells (h : List.Forall₂ (Spells values) segments written)
    (h' : List.Forall₂ (Spells others) segments written) {name : String}
    (mem : .slot name ∈ segments) : (values.get name).asText = (others.get name).asText := by
  induction h with
  | nil => cases mem
  | cons own _ ih =>
    cases h' with
    | cons own' later =>
      rcases List.mem_cons.mp mem with rfl | mem
      · cases own with
        | slot _ _ writes reads =>
          cases own' with
          | slot _ _ writes' reads' =>
            rw [writes, writes', Option.some_inj.mp (reads.symm.trans reads')]
      · exact ih later mem

end Segment

/-! ## Templates -/

/-- Two templates may be written alike. -/
def Template.meets (t other : Template) : Bool :=
  t.method == other.method && Segment.meetAll t.segments other.segments

/-- A path with its slots filled is spelled by its template. -/
theorem Template.spells_written {t : Template} {values : PathValues}
    (filled : ∀ name ∈ t.slots, (values.get name).fills = true) :
    List.Forall₂ (Segment.Spells values) t.segments (t.written values) := by
  refine List.forall₂_map_right_iff.mpr (List.forall₂_same.mpr fun segment mem => ?_)
  refine Segment.spells_written ?_
  rintro name rfl
  exact filled name (mem_slots.mpr mem)

/-- All operations are listed. -/
theorem Operation.mem_all (op : Operation) : op ∈ all := by
  cases op <;> decide

/-- No two operations share a request line. -/
theorem eq_of_meet_template {version : ApiVersion} {op other : Operation}
    (meet : (template version op).meets (template version other) = true) : op = other := by
  have apart : ∀ op ∈ Operation.all, ∀ other ∈ Operation.all,
      (template version op).meets (template version other) = true → op = other := by
    cases version <;> decide +kernel
  exact apart op op.mem_all other other.mem_all meet

variable {τ : Type}

/-! ## Request lines -/

namespace Request

/-- What follows a base URL in the URL of the request. -/
def target (baseUrl : String) (r : Request τ) : List Char :=
  r.url.toList.drop baseUrl.toList.length

/-- The request line of a template with values in its slots and with a query. The path, which begins
after the base URL, has the template's segments and no others, and the query comes after it. -/
structure Spells (baseUrl : String) (t : Template) (values : PathValues) (query : Query)
    (r : Request τ) : Prop where
  method : r.method = t.method
  below : r.url.toList = baseUrl.toList ++ r.target baseUrl
  path : ∃ written, (Path.ofTarget (r.target baseUrl)).splitOn '/' = [] :: written ∧
    List.Forall₂ (Segment.Spells values) t.segments written
  search : Path.afterPath (r.target baseUrl) = query.search.toList

/-- A resolved call has the request line of its operation. -/
theorem spells_of_route {c : Catalog} {op : Operation} {values : PathValues} {query : Query}
    {route : Route} (resolves : c.route op values query = .ok route) (baseUrl : String)
    (body : Option Bytes) (timeout : τ) :
    Spells baseUrl (template c.version op) values query
      ⟨route.method, route.url baseUrl, body, timeout⟩ := by
  obtain ⟨-, filled, same⟩ := Catalog.route_eq_ok_iff.mp resolves
  obtain ⟨path, search⟩ := Catalog.ofTarget_eq resolves
  have url : (route.url baseUrl).toList =
      baseUrl.toList ++ (route.path ++ route.query.search).toList := by
    rw [route.url_eq, String.toList_append]
  have rest : (route.url baseUrl).toList.drop baseUrl.toList.length =
      (route.path ++ route.query.search).toList := by
    rw [url, List.drop_left]
  refine ⟨by rw [same], url.trans (rest ▸ rfl),
    ⟨(template c.version op).written values, ?_, ?_⟩, ?_⟩
  · rw [target, rest, path]
    exact Path.splitOn_ofSegments (not_mem_of_mem_written c.version op values (by decide))
  · exact Template.spells_written filled
  · rw [target, rest, search]

/-- One request line is spelled by one operation only, with one text in each slot and one query. -/
theorem Spells.unique {baseUrl : String} {version : ApiVersion} {op other : Operation}
    {values others : PathValues} {query other_query : Query} {r r' : Request τ}
    (h : Spells baseUrl (template version op) values query r)
    (h' : Spells baseUrl (template version other) others other_query r')
    (method : r.method = r'.method) (url : r.url = r'.url) :
    op = other ∧ query = other_query ∧
      ∀ slot ∈ (template version op).slots,
        (values.get slot).asText = (others.get slot).asText := by
  -- one URL has one path, so both templates are spelled by the same segments
  obtain ⟨written, parts, spelled⟩ := h.path
  obtain ⟨written', parts', spelled'⟩ := h'.path
  have target : r.target baseUrl = r'.target baseUrl := by rw [Request.target, Request.target, url]
  rw [← target, parts, List.cons.injEq] at parts'
  rw [← parts'.2] at spelled'
  have meet : (template version op).meets (template version other) = true := by
    have methods : (template version op).method = (template version other).method :=
      h.method.symm.trans (method.trans h'.method)
    exact Bool.and_eq_true_iff.mpr
      ⟨beq_iff_eq.mpr methods, Segment.meetAll_of_spells spelled spelled'⟩
  obtain rfl := eq_of_meet_template meet
  have search : query.search = other_query.search := by
    rw [← String.toList_inj, ← h.search, ← h'.search, target]
  exact ⟨rfl, Query.search_inj search, fun slot mem =>
    Segment.asText_eq_of_spells spelled spelled' (Template.mem_slots.mp mem)⟩

end Request

variable [TimeScale τ]

/-- A call that watches no cancel event makes its request, whatever the world. -/
theorem Call.sent_of_unwatched {σ : Type} {c : Call τ} (unwatched : c.watching = false)
    (w : World σ τ) (s : σ) : ∃ answer, (c.request, answer) ∈ (c.run.runIn w s).sent := by
  have steps : c.run = Action.clock >>= fun started => c.attempts started c.policy.retries 0 := rfl
  rw [steps]
  simp only [attempts_eq, unwatched]
  exact ⟨_, .head _⟩

/-! ## The law of request lines -/

namespace Client

variable (c : Client τ)

/-- A call of a name puts the request on the wire, in some world and with some body and options. -/
def Sends (name : String) (values : PathValues) (query : Query) (request : Request τ) : Prop :=
  ∃ (σ : Type) (w : World σ τ) (s : σ) (body : Option Bytes) (idempotent : Bool)
    (o : CallOptions τ) (answer : Option Outcome),
    (request, answer) ∈ ((c.callNamed name values query body idempotent o).runIn w s).sent

variable {c} {name : String} {values : PathValues} {query : Query} {request : Request τ}

/-- What a call of a name asks for is spelled by the operation of the name. -/
theorem Sends.spells (h : c.Sends name values query request) :
    ∃ op, Operation.ofName? name = some op ∧
      request.Spells c.config.baseUrl (template c.config.apiVersion op) values query := by
  obtain ⟨σ, w, s, body, idempotent, o, answer, sent⟩ := h
  unfold callNamed at sent
  split at sent
  next op found =>
    refine ⟨op, found, ?_⟩
    have asks := c.ensures_call (P := fun e => ∀ call, e.sent? = some call →
        call.1.Spells c.config.baseUrl (template c.config.apiVersion op) values query)
      (fun e silent call sent => nomatch silent.symm.trans sent) values query body idempotent o
      False.elim fun route resolves answer call same => by
        cases same
        exact Request.spells_of_route resolves c.config.baseUrl body c.config.timeout
    obtain ⟨e, mem, same⟩ := List.mem_filterMap.mp sent
    exact (asks.of_runIn w s).1 e mem _ same
  next => cases sent

/-- A call that resolves puts its request on the wire. -/
theorem sends_of_resolve {route : Route}
    (resolves : c.config.catalog.resolve name values query = .ok route) (body : Option Bytes) :
    c.Sends name values query
      ⟨route.method, route.url c.config.baseUrl, body, c.config.timeout⟩ := by
  obtain ⟨op, -, runs⟩ := callNamed_eq_run resolves body true {}
  obtain ⟨answer, sent⟩ := Call.sent_of_unwatched (c := c.callFor op route body true {}) rfl
    Script.world { now := 0.0 }
  refine ⟨Script τ, Script.world, { now := 0.0 }, body, true, {}, answer, ?_⟩
  rw [runs]
  exact sent

/-- **The request line determines the request.** What a call by name puts on the wire can be read:
after the base URL come the segments of the operation's template, each value is decoded from the
segment of its slot, and the query follows. So whatever puts the same method and URL on the wire is
a call of the same operation, with the same value in each slot and the same query. -/
theorem request_line_law (c : Client τ) :
    (∀ {name values query} {request : Request τ}, c.Sends name values query request →
      ∃ op, Operation.ofName? name = some op ∧
        request.Spells c.config.baseUrl (template c.config.apiVersion op) values query) ∧
    ∀ {name other values others query other_query} {request again : Request τ},
      c.Sends name values query request → c.Sends other others other_query again →
      request.method = again.method → request.url = again.url →
      name = other ∧ query = other_query ∧ ∃ op, Operation.ofName? name = some op ∧
        ∀ slot ∈ (template c.config.apiVersion op).slots,
          (values.get slot).asText = (others.get slot).asText := by
  refine ⟨fun sends => sends.spells, ?_⟩
  intro name other values others query other_query request again sends sends_again method url
  obtain ⟨op, found, spells⟩ := sends.spells
  obtain ⟨op', found', spells'⟩ := sends_again.spells
  obtain ⟨rfl, queries, slots⟩ := spells.unique spells' method url
  have names : name = other :=
    (Operation.name_of_ofName? found).symm.trans (Operation.name_of_ofName? found')
  exact ⟨names, queries, op, found, slots⟩

/-- The status of a shard is asked for by its number, and again by its number as a text, both times
with a query that looks like a path. Each request can be read, and the number is one text. -/
theorem request_line_law_shard :
    let number : PathValues := [("shard", .int 1)]
    let text : PathValues := [("shard", .text "1")]
    let query : Query := [("/", "a b")]
    let url := simulatorGateway ++ "/network/status/1?%2F=a+b"
    let request : Request Float := ⟨.get, url, none, 30.0⟩
    onThisMachine.Sends "network_status" number query request ∧
      onThisMachine.Sends "network_status" text query request ∧
      (∃ op, Operation.ofName? "network_status" = some op ∧
        request.Spells simulatorGateway (template .v1 op) number query) ∧
      ∃ op, Operation.ofName? "network_status" = some op ∧ ∀ slot ∈ (template .v1 op).slots,
        (number.get slot).asText = (text.get slot).asText := by
  intro number text query url request
  let route : Route := ⟨.get, "/network/status/1", query⟩
  have line : route.url simulatorGateway = url := by decide +kernel
  have sends : ∀ values : PathValues,
      onThisMachine.config.catalog.resolve "network_status" values query = .ok route →
      onThisMachine.Sends "network_status" values query request := by
    intro values resolves
    have sent := sends_of_resolve resolves none
    rwa [show route.url onThisMachine.config.baseUrl = url from line] at sent
  have by_number := sends number (by decide +kernel)
  have by_text := sends text (by decide +kernel)
  obtain ⟨read, unique⟩ := request_line_law onThisMachine
  obtain ⟨-, -, one_text⟩ := unique by_number by_text rfl rfl
  exact ⟨by_number, by_text, read by_number, one_text⟩

end Client
end GatewayClient
