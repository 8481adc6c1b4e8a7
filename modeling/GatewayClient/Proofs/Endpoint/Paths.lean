import GatewayClient.Proofs.Client.Requests
import GatewayClient.Proofs.Endpoint.DotSegments
import GatewayClient.Proofs.Percent

/-!
# The paths of operations

A path is written segment by segment (`Template.written`). Fixed segments are plain words
(`isPlain_template`), and what fills a slot is encoded, so no separator of a URL stands in a
segment (`not_mem_of_mem_written`): what follows the base URL falls into path and query
(`Catalog.ofTarget_eq`), and the path into its segments (`Path.splitOn_ofSegments`).

**A path begins with a fixed segment of its template**, even if dot segments are removed from it
(`first_written`). What carries the proof is that a slot always follows a fixed segment
(`areGuarded_template`), so a dot segment in a slot takes back no more than that.
-/

set_option autoImplicit false

namespace GatewayClient

/-! ## What a value is written as -/

namespace Decimal

/-- Digits are laid out as something. -/
theorem layOut_ne_nil (digits : List Char) (point : Int) : layOut digits point ≠ [] := by
  unfold layOut
  split
  · split
    · exact List.cons_ne_nil _ _
    · simp
  · simp

/-- A double is written as something. -/
theorem render_ne_empty (x : Float) : render x ≠ "" := by
  unfold render renderChars
  split
  next => simp
  next => simp
  next negative mantissa exponent _ =>
    dsimp only
    by_cases zero : (mantissa == 0) = true
    · simp [zero]
    · simp [zero, layOut_ne_nil]

end Decimal

/-- A value that fills a slot is written as something. -/
theorem PathValue.asText_ne_empty {value : PathValue} (filled : value.isMissing = false) :
    value.asText ≠ .ok "" := by
  intro empty
  cases value with
  | none => cases filled
  | text t =>
    rw [asText] at empty
    cases known : t.toString? with
    | none =>
      rw [known] at empty
      cases empty
    | some s =>
      rw [known] at empty
      obtain rfl := Except.ok.inj empty
      obtain rfl := Text.toString?_eq_some_iff.mp known
      cases filled
  | int n =>
    rw [asText, Decimal.writeWhole?] at empty
    split at empty
    next s written =>
      obtain rfl := Except.ok.inj empty
      split at written
      · have written := Option.some_inj.mp written
        cases n with
        | ofNat n => simp [toString, Int.repr, Nat.repr] at written
        | negSucc n => simp [toString, Int.repr] at written
      · cases written
    next => cases empty
  | bool b => cases b <;> exact absurd (Except.ok.inj empty) (by decide)
  | real x => exact Decimal.render_ne_empty x (Except.ok.inj empty)

/-! ## Paths and their segments -/

namespace Path

/-- The character ends no path. -/
def isInside (c : Char) : Bool := c != '?' && c != '#'

/-- The path of what follows a base URL: it ends where a query or a fragment begins. -/
def ofTarget (target : List Char) : List Char := target.takeWhile isInside

/-- What follows the path. -/
def afterPath (target : List Char) : List Char := target.dropWhile isInside

/-- The first segment of a path that is not empty. -/
def first (path : List Char) : List Char := (path.dropWhile (· == '/')).takeWhile (· != '/')

/-- The first segment of a path of segments. -/
theorem first_ofSegments {segment : List Char} (free : '/' ∉ segment) (filled : segment ≠ [])
    (rest : List (List Char)) : first (ofSegments (segment :: rest)) = segment := by
  cases segment with
  | nil => exact absurd rfl filled
  | cons c segment =>
    have word : ¬ c = '/' := fun same => free (same ▸ .head _)
    have path : ofSegments ((c :: segment) :: rest) =
        '/' :: ((c :: segment) ++ ofSegments rest) := rfl
    have start : ((c :: segment) ++ ofSegments rest).dropWhile (· == '/') =
        (c :: segment) ++ ofSegments rest := by simp [word]
    rw [path, first, List.dropWhile_cons_of_pos rfl, start,
      takeWhile_append free (follows_ofSegments rest)]

/-- Segments without slashes are found again at the slashes. -/
theorem splitOn_segment {segment : List Char} {rest : List (List Char)}
    (free : ∀ other ∈ segment :: rest, '/' ∉ other) :
    (segment ++ ofSegments rest).splitOn '/' = segment :: rest := by
  induction rest generalizing segment with
  | nil =>
    rw [ofSegments, List.flatMap_nil, List.append_nil]
    exact List.splitOn_eq_singleton (free segment (.head _))
  | cons next rest ih =>
    obtain ⟨own, others⟩ := List.forall_mem_cons.mp free
    have path : segment ++ ofSegments (next :: rest) =
        segment ++ '/' :: (next ++ ofSegments rest) := rfl
    rw [path, List.splitOn_append_cons_self_of_not_mem own, ih others]

/-- A path falls into its segments where the slashes are. -/
theorem splitOn_ofSegments {segments : List (List Char)}
    (free : ∀ segment ∈ segments, '/' ∉ segment) :
    (ofSegments segments).splitOn '/' = [] :: segments := by
  cases segments with
  | nil => rfl
  | cons segment rest =>
    have empty : '/' ∉ ([] : List Char) := nofun
    have path : ofSegments (segment :: rest) = [] ++ '/' :: (segment ++ ofSegments rest) := rfl
    rw [path, List.splitOn_append_cons_self_of_not_mem empty, splitOn_segment free]

/-! ## What a path begins with -/

/-- The first segment that is left of a path is one of the roots, or nothing is left of it. -/
def Rooted (roots : List (List Char)) (segments : List (List Char)) : Prop :=
  segments = [] ∨ segments = [[]] ∨ ∃ root ∈ roots, ∃ rest, segments = root :: rest

/-- The path begins with one of the roots, or has no segment that is not empty. -/
def BeginsIn (roots : List (List Char)) (path : List Char) : Prop :=
  first path = [] ∨ first path ∈ roots

/-- A path that is left with a root begins in it. -/
theorem Rooted.beginsIn {roots segments : List (List Char)} (h : Rooted roots segments)
    (free : ∀ root ∈ roots, '/' ∉ root ∧ root ≠ []) : BeginsIn roots (ofSegments segments) := by
  rcases h with rfl | rfl | ⟨root, mem, rest, rfl⟩
  · exact .inl rfl
  · exact .inl rfl
  · obtain ⟨plain, filled⟩ := free root mem
    rw [BeginsIn, first_ofSegments plain filled]
    exact .inr mem

/-- At the bottom of the stack is one of the roots, unless the stack is empty. -/
def Held (roots stack : List (List Char)) : Prop := ∀ bottom ∈ stack.getLast?, bottom ∈ roots

namespace Held

variable {roots stack : List (List Char)} {top segment : List Char}

theorem nil : Held roots [] := nofun

/-- A root may go on any stack. -/
theorem cons (held : Held roots stack) (mem : segment ∈ roots) : Held roots (segment :: stack) := by
  intro bottom last
  rw [List.getLast?_cons, Option.mem_some_iff] at last
  subst last
  cases rest : stack.getLast? with
  | none => exact mem
  | some bottom => exact held bottom rest

/-- Any segment may go on a stack that is not empty. -/
theorem push (held : Held roots (top :: stack)) : Held roots (segment :: top :: stack) := by
  intro bottom last
  rw [List.getLast?_cons_cons] at last
  exact held bottom last

/-- A stack that is held is empty, or begins with a root when it is read from the bottom. -/
theorem reverse (held : Held roots stack) :
    stack.reverse = [] ∨ ∃ root ∈ roots, ∃ rest, stack.reverse = root :: rest := by
  have first := List.head?_reverse (l := stack)
  cases left : stack.reverse with
  | nil => exact .inl rfl
  | cons bottom rest =>
    rw [left] at first
    exact .inr ⟨bottom, held bottom first.symm, rest, rfl⟩

/-- The segments of a stack that is held are rooted. -/
theorem rooted (held : Held roots stack) : Rooted roots stack.reverse :=
  held.reverse.imp_right .inr

/-- A slash at the end does not change what a path begins with. -/
theorem rooted_slash (held : Held roots stack) : Rooted roots ([] :: stack).reverse := by
  rw [List.reverse_cons]
  rcases held.reverse with empty | ⟨root, mem, rest, same⟩
  · rw [empty]
    exact .inr (.inl rfl)
  · rw [same]
    exact .inr (.inr ⟨root, mem, rest ++ [[]], rfl⟩)

/-- Whatever follows a root, a dot segment or not, it takes back that root or nothing. -/
theorem settle_after (held : Held roots stack) (mem : top ∈ roots) {rest : List (List Char)}
    (later : ∀ {stack}, Held roots stack → Rooted roots (settle stack rest)) :
    Rooted roots (settle (top :: stack) (segment :: rest)) := by
  by_cases one : segment = ['.']
  · subst one
    cases rest with
    | nil =>
      rw [settle]
      exact (held.cons mem).rooted_slash
    | cons next rest =>
      rw [settle]
      · exact later (held.cons mem)
      · exact List.cons_ne_nil next rest
  by_cases two : segment = ['.', '.']
  · subst two
    -- the root is taken off again, and what is below it holds
    cases rest with
    | nil =>
      rw [settle]
      exact held.rooted_slash
    | cons next rest =>
      rw [settle]
      · exact later held
      · exact List.cons_ne_nil next rest
  · rw [settle_cons one two]
    exact later (held.cons mem).push

end Held

end Path

/-! ## Templates -/

namespace Segment

/-- A slot stands only right after a fixed segment. -/
def areGuarded : List Segment → Bool
  | [] => true
  | .fixed _ :: .slot _ :: rest => areGuarded rest
  | .fixed _ :: rest => areGuarded rest
  | .slot _ :: _ => false

/-- A fixed segment is a plain word, and no dot segment. -/
def isPlain : Segment → Bool
  | .fixed text =>
    text.toList.all Percent.isWritten && !(List.contains [[], ['.'], ['.', '.']] text.toList)
  | .slot _ => true

/-- The segment as it stands in the path. -/
def written (values : PathValues) (segment : Segment) : List Char :=
  (segment.spelled values).toList

/-- What fixed segments are written as. -/
def roots (segments : List Segment) : List (List Char) :=
  segments.filterMap fun
    | .fixed text => some text.toList
    | .slot _ => none

variable {segments : List Segment} {text : String}

/-- The roots are what the fixed segments say. -/
theorem mem_roots {root : List Char} :
    root ∈ roots segments ↔ ∃ text, .fixed text ∈ segments ∧ text.toList = root := by
  unfold roots
  rw [List.mem_filterMap]
  constructor
  · rintro ⟨segment, mem, same⟩
    cases segment with
    | fixed text => exact ⟨text, mem, Option.some_inj.mp same⟩
    | slot name => cases same
  · rintro ⟨text, mem, rfl⟩
    exact ⟨.fixed text, mem, rfl⟩

/-- A segment of plain words and encoded values is made of characters that encoded texts have. -/
theorem isWritten_of_isPlain {segment : Segment} (plain : segment.isPlain = true)
    (values : PathValues) {c : Char} (mem : c ∈ segment.written values) :
    Percent.isWritten c = true := by
  cases segment with
  | fixed text =>
    obtain ⟨all, -⟩ := Bool.and_eq_true_iff.mp plain
    exact List.all_eq_true.mp all c mem
  | slot name => exact Percent.isWritten_of_mem_encode mem

/-- A plain segment is a segment of its own. -/
theorem not_mem_written {segment : Segment} (plain : segment.isPlain = true) (values : PathValues)
    {c : Char} (other : Percent.isWritten c = false) : c ∉ segment.written values := fun mem =>
  Bool.false_ne_true (other.symm.trans (isWritten_of_isPlain plain values mem))

/-- A plain word is not empty, and no dot segment. -/
theorem toList_ne_of_isPlain (plain : (fixed text).isPlain = true) :
    text.toList ≠ [] ∧ text.toList ≠ ['.'] ∧ text.toList ≠ ['.', '.'] := by
  obtain ⟨-, apart⟩ := Bool.and_eq_true_iff.mp plain
  simpa using apart

/-- Without its dot segments too, a path begins with a fixed segment: a slot stands after one, and a
dot segment there takes back that one or nothing. -/
theorem rooted_settle {known : List (List Char)} (values : PathValues)
    (guarded : areGuarded segments = true) (plain : ∀ segment ∈ segments, segment.isPlain = true)
    (listed : ∀ root ∈ roots segments, root ∈ known) {stack : List (List Char)}
    (held : Path.Held known stack) :
    Path.Rooted known (Path.settle stack (segments.map (written values))) := by
  induction segments using areGuarded.induct generalizing stack with
  | case1 =>
    rw [List.map_nil, Path.settle]
    exact held.rooted
  | case2 text name rest ih =>
    obtain ⟨own, others⟩ := List.forall_mem_cons.mp plain
    obtain ⟨-, others⟩ := List.forall_mem_cons.mp others
    obtain ⟨root, later⟩ := List.forall_mem_cons.mp listed
    obtain ⟨-, one, two⟩ := toList_ne_of_isPlain own
    rw [List.map_cons, List.map_cons, written, spelled, Path.settle_cons one two]
    exact held.settle_after root fun held => ih guarded others later held
  | case3 text rest unguarded ih =>
    obtain ⟨own, others⟩ := List.forall_mem_cons.mp plain
    obtain ⟨root, later⟩ := List.forall_mem_cons.mp listed
    obtain ⟨-, one, two⟩ := toList_ne_of_isPlain own
    rw [areGuarded] at guarded
    · rw [List.map_cons, written, spelled, Path.settle_cons one two]
      exact ih guarded others later (held.cons root)
    · exact unguarded
  | case4 name rest => cases guarded

/-- A path whose slots stand after fixed segments begins with a fixed segment. -/
theorem rooted_written (values : PathValues) (guarded : areGuarded segments = true) :
    Path.Rooted (roots segments) (segments.map (written values)) := by
  cases segments with
  | nil => exact .inl rfl
  | cons segment rest =>
    cases segment with
    | slot name => cases guarded
    | fixed text => exact .inr (.inr ⟨text.toList, .head _, rest.map (written values), rfl⟩)

end Segment

/-- The segments of the path, with values in its slots. -/
def Template.written (t : Template) (values : PathValues) : List (List Char) :=
  t.segments.map (Segment.written values)

/-- The path of a template is that of its segments. -/
theorem Template.toList_path_eq (t : Template) (values : PathValues) :
    (t.path values).toList = Path.ofSegments (t.written values) := by
  rw [toList_path, Path.ofSegments, Template.written, List.flatMap_map]
  rfl

/-! ## The paths of the operations -/

section Operations

variable (version : ApiVersion) (op : Operation)

/-- In every path a slot stands right after a fixed segment. -/
theorem areGuarded_template : Segment.areGuarded (template version op).segments = true := by
  cases op with
  | token => cases version <;> rfl
  | _ => rfl

/-- In every path the fixed segments are plain words. -/
theorem isPlain_template : ∀ segment ∈ (template version op).segments, segment.isPlain = true := by
  cases version <;> cases op <;> decide +kernel

/-- A character that is never written stands in no segment. -/
theorem not_mem_of_mem_written (values : PathValues) {c : Char}
    (other : Percent.isWritten c = false) :
    ∀ segment ∈ (template version op).written values, c ∉ segment := by
  intro chars written
  obtain ⟨segment, mem, rfl⟩ := List.mem_map.mp written
  exact Segment.not_mem_written (isPlain_template version op segment mem) values other

/-- Neither a question mark nor a number sign stands in a path. -/
theorem isInside_of_mem_path (values : PathValues) :
    ∀ c ∈ Path.ofSegments ((template version op).written values), Path.isInside c = true := by
  intro c mem
  obtain ⟨segment, written, mem⟩ := List.mem_flatMap.mp mem
  have apart : ∀ other, Percent.isWritten other = false → other ≠ '/' → c ≠ other := by
    rintro other unwritten no_slash rfl
    rcases List.mem_cons.mp mem with slash | mem
    · exact no_slash slash
    · exact not_mem_of_mem_written version op values unwritten segment written mem
  simp [Path.isInside, apart '?' (by decide) (by decide), apart '#' (by decide) (by decide)]

/-- The fixed segments of a path have no slashes and are not empty. -/
theorem free_of_mem_roots {root : List Char}
    (known : root ∈ Segment.roots (template version op).segments) : '/' ∉ root ∧ root ≠ [] := by
  obtain ⟨text, mem, rfl⟩ := Segment.mem_roots.mp known
  have plain := isPlain_template version op _ mem
  exact ⟨Segment.not_mem_written plain [] (by decide), (Segment.toList_ne_of_isPlain plain).1⟩

/-- The path of an operation begins with a fixed segment of its template, whether or not dot
segments are removed from it. -/
theorem first_written (values : PathValues) :
    let path := Path.ofSegments ((template version op).written values)
    let roots := Segment.roots (template version op).segments
    Path.BeginsIn roots path ∧ Path.BeginsIn roots (Path.removeDots path) := by
  intro path roots
  have guarded := areGuarded_template version op
  have free : ∀ root ∈ roots, '/' ∉ root ∧ root ≠ [] := fun _ => free_of_mem_roots version op
  refine ⟨(Segment.rooted_written values guarded).beginsIn free, ?_⟩
  have settled := Segment.rooted_settle values guarded (isPlain_template version op)
    (fun _ mem => mem) Path.Held.nil
  show Path.BeginsIn roots (Path.removeDots (Path.ofSegments _))
  rw [Path.removeDots_ofSegments (not_mem_of_mem_written version op values (by decide))]
  exact settled.beginsIn free

/-- Only an operation that controls a simulator has its word in the path. -/
theorem simulator_mem_template :
    .fixed "simulator" ∈ (template version op).segments ↔ op.simulatorOnly = true := by
  cases version <;> cases op <;> decide

end Operations

/-! ## Queries -/

/-- A query as it stands in a URL, after a question mark. -/
def Query.search (query : Query) : String :=
  if query.isEmpty then "" else "?" ++ Percent.encodeQuery query

namespace Query

/-- A query is nothing, or begins with a question mark. -/
theorem search_begins (query : Query) :
    query.search.toList = [] ∨ ∃ more, query.search.toList = '?' :: more := by
  unfold search
  split
  · exact .inl rfl
  · exact .inr ⟨_, String.toList_append⟩

theorem search_ne_empty (pair : String × String) (query : Query) :
    search (pair :: query) ≠ "" := by
  intro empty
  have chars := congrArg String.toList empty
  rw [search, if_neg (by simp), String.toList_append] at chars
  exact List.append_ne_nil_of_left_ne_nil (by decide) _ chars

/-- What stands after a path determines the query. -/
theorem search_inj {query other : Query} (same : query.search = other.search) : query = other := by
  cases query with
  | nil =>
    cases other with
    | nil => rfl
    | cons pair other => exact absurd same.symm (search_ne_empty pair other)
  | cons pair query =>
    cases other with
    | nil => exact absurd same (search_ne_empty pair query)
    | cons other_pair other =>
      have written : "?" ++ Percent.encodeQuery (pair :: query) =
          "?" ++ Percent.encodeQuery (other_pair :: other) := same
      rw [String.append_right_inj] at written
      exact Percent.encodeQuery_inj.mp written

end Query

/-- A URL is the base URL, the path and the query. -/
theorem Route.url_eq (baseUrl : String) (r : Route) :
    r.url baseUrl = baseUrl ++ (r.path ++ r.query.search) :=
  String.append_assoc

/-- What follows the base URL falls into path and query. -/
theorem Catalog.ofTarget_eq {c : Catalog} {op : Operation} {values : PathValues} {query : Query}
    {route : Route} (resolves : c.route op values query = .ok route) :
    let target := (route.path ++ route.query.search).toList
    Path.ofTarget target = Path.ofSegments ((template c.version op).written values) ∧
      Path.afterPath target = query.search.toList := by
  have path : route.path.toList = Path.ofSegments ((template c.version op).written values) := by
    rw [eq_of_route_eq_ok resolves, Template.toList_path_eq]
  have asked : route.query = query := by rw [eq_of_route_eq_ok resolves]
  have inside : ∀ ch ∈ route.path.toList, Path.isInside ch = true :=
    path ▸ isInside_of_mem_path c.version op values
  intro target
  have parts : target = route.path.toList ++ query.search.toList := by
    rw [← asked]
    exact String.toList_append
  rw [parts, Path.ofTarget, Path.afterPath, List.takeWhile_append_of_pos inside,
    List.dropWhile_append_of_pos inside, path]
  rcases query.search_begins with none | ⟨more, search⟩
  · rw [none]
    exact ⟨List.append_nil _, rfl⟩
  · rw [search]
    exact ⟨List.append_nil _, rfl⟩

end GatewayClient
