import GatewayClient.Proofs.RequestLine

/-!
# What reaches the operation's own route

Percent encoding leaves a point as it is, so a value `.` or `..` becomes a dot segment of its path
(`Template.dotted_written`).

**A removal shows** (`Path.settle_changes`): a path with a dot segment has fewer segments when it is
removed, or an empty one at its end. A template has neither, so such a path no longer has the
segments of its operation, whatever the values. **Only an operation whose values are no dots reaches
its own route** (`Catalog.dot_segments_law`).
-/

set_option autoImplicit false

namespace GatewayClient

/-! ## Settling with dot segments -/

namespace Path

/-- The segment is a dot segment. -/
def isDots (segment : List Char) : Bool := segment == ['.'] || segment == ['.', '.']

variable {stack segments : List (List Char)} {segment : List Char}

/-- There are two dot segments. -/
theorem isDots_iff : isDots segment = true ↔ segment = ['.'] ∨ segment = ['.', '.'] := by
  simp [isDots]

theorem isDots_eq_false (one : segment ≠ ['.']) (two : segment ≠ ['.', '.']) :
    isDots segment = false := by
  simp [isDots, one, two]

/-- A single dot within a path is dropped. -/
theorem settle_one (more : segments ≠ []) :
    settle stack (['.'] :: segments) = settle stack segments := by
  rw [settle]
  exact more

/-- Two dots within a path take back the segment before them. -/
theorem settle_two (more : segments ≠ []) :
    settle stack (['.', '.'] :: segments) = settle stack.tail segments := by
  rw [settle]
  exact more

/-- A path without dot segments keeps its segments. -/
theorem settle_eq_self (plain : ∀ segment ∈ segments, isDots segment = false) :
    settle stack segments = stack.reverse ++ segments := by
  induction segments generalizing stack with
  | nil => rw [settle, List.append_nil]
  | cons segment rest ih =>
    obtain ⟨own, others⟩ := List.forall_mem_cons.mp plain
    have one : segment ≠ ['.'] := by
      rintro rfl
      cases own
    have two : segment ≠ ['.', '.'] := by
      rintro rfl
      cases own
    rw [settle_cons one two, ih others, List.reverse_cons, List.append_assoc,
      List.singleton_append]

/-- No more segments are left than there were. -/
theorem length_settle_le (stack segments : List (List Char)) :
    (settle stack segments).length ≤ stack.length + segments.length := by
  induction stack, segments using settle.induct with
  | case1 stack => simp [settle]
  | case2 stack => simp [settle]
  | case3 stack =>
    have shorter : stack.tail.length ≤ stack.length := by simp
    simp only [settle, List.length_reverse, List.length_cons, List.length_nil]
    omega
  | case4 stack rest more ih =>
    rw [settle_one more, List.length_cons]
    omega
  | case5 stack rest more ih =>
    have shorter : stack.tail.length ≤ stack.length := by simp
    rw [settle_two more, List.length_cons]
    omega
  | case6 stack segment rest _ _ one two ih =>
    rw [settle_cons one two, List.length_cons]
    rw [List.length_cons] at ih
    omega

/-- With a dot segment, fewer segments are left of a path, or an empty one at its end. -/
theorem settle_changes (stack : List (List Char))
    (dots : ∃ segment ∈ segments, isDots segment = true) :
    (settle stack segments).length < stack.length + segments.length ∨
      [] ∈ settle stack segments := by
  induction stack, segments using settle.induct with
  | case1 stack => simp at dots
  | case2 stack => exact .inr (by simp [settle])
  | case3 stack => exact .inr (by simp [settle])
  | case4 stack rest more ih =>
    have bound := length_settle_le stack rest
    rw [settle_one more, List.length_cons]
    exact .inl (by omega)
  | case5 stack rest more ih =>
    have bound := length_settle_le stack.tail rest
    have shorter : stack.tail.length ≤ stack.length := by simp
    rw [settle_two more, List.length_cons]
    exact .inl (by omega)
  | case6 stack segment rest _ _ one two ih =>
    have later : ∃ segment ∈ rest, isDots segment = true := by
      obtain ⟨other, mem, dots⟩ := dots
      rcases List.mem_cons.mp mem with rfl | mem
      · exact absurd (isDots_eq_false one two) (Bool.not_eq_false _ ▸ dots)
      · exact ⟨other, mem, dots⟩
    rw [settle_cons one two, List.length_cons]
    refine (ih later).imp_left fun shorter => ?_
    rw [List.length_cons] at shorter
    omega

/-- What is left of a path was in it, or is the empty segment at its end. -/
theorem mem_settle (mem : segment ∈ settle stack segments) :
    segment = [] ∨ segment ∈ stack ∨ segment ∈ segments := by
  induction stack, segments using settle.induct with
  | case1 stack =>
    rw [settle, List.mem_reverse] at mem
    exact .inr (.inl mem)
  | case2 stack =>
    rw [settle, List.mem_reverse, List.mem_cons] at mem
    exact mem.imp_right .inl
  | case3 stack =>
    rw [settle, List.mem_reverse, List.mem_cons] at mem
    exact mem.imp_right fun below => .inl (List.mem_of_mem_tail below)
  | case4 stack rest more ih =>
    rw [settle_one more] at mem
    exact (ih mem).imp_right (.imp_right (.tail _))
  | case5 stack rest more ih =>
    rw [settle_two more] at mem
    exact (ih mem).imp_right (.imp List.mem_of_mem_tail (.tail _))
  | case6 stack other rest _ _ one two ih =>
    rw [settle_cons one two] at mem
    rcases ih mem with empty | below | later
    · exact .inl empty
    · rcases List.mem_cons.mp below with rfl | below
      · exact .inr (.inr (.head _))
      · exact .inr (.inl below)
    · exact .inr (.inr (.tail _ later))

/-- The segments that are left of a path are found at its slashes. -/
theorem splitOn_removeDots (free : ∀ segment ∈ segments, '/' ∉ segment) :
    (removeDots (ofSegments segments)).splitOn '/' = [] :: settle [] segments := by
  rw [removeDots_ofSegments free]
  refine splitOn_ofSegments fun segment mem => ?_
  rcases mem_settle mem with rfl | below | own
  · exact List.not_mem_nil
  · cases below
  · exact free segment own

end Path

/-- Encoding neither makes a dot segment nor hides one. -/
theorem Percent.isDots_encode (s : String) :
    Path.isDots (encode s).toList = Path.isDots s.toList := by
  -- points are written as they are, and what is written as points is read as points
  have same : ∀ dots : String, (encode dots).toList = dots.toList →
      ((encode s).toList = dots.toList ↔ s.toList = dots.toList) := by
    intro dots kept
    constructor
    · intro written
      have read := decode?_encode s
      rw [written, ← kept, decode?_encode, Option.some_inj] at read
      rw [read]
    · intro same
      rw [String.toList_inj.mp same, kept]
  have one := same "." (by decide +kernel)
  have two := same ".." (by decide +kernel)
  rw [Bool.eq_iff_iff, Path.isDots_iff, Path.isDots_iff]
  exact or_congr one two

/-! ## Paths that spell a template -/

namespace Template

/-- Some value is a dot segment as it stands. -/
def dotted (t : Template) (values : PathValues) : Bool :=
  t.slots.any fun slot => Path.isDots (values.get slot).written.toList

/-- The path has the segments of the template and no others, with values in the slots. -/
def Spells (t : Template) (values : PathValues) (path : List Char) : Prop :=
  ∃ written, path.splitOn '/' = [] :: written ∧
    List.Forall₂ (Segment.Spells values) t.segments written

variable {t : Template} {values : PathValues} {path : List Char}

/-- A path has a dot segment where a value is one. -/
theorem dotted_written (plain : ∀ segment ∈ t.segments, segment.isPlain = true) :
    (∃ segment ∈ t.written values, Path.isDots segment = true) ↔ t.dotted values = true := by
  rw [dotted, List.any_eq_true]
  constructor
  · rintro ⟨_, written, dots⟩
    obtain ⟨segment, mem, rfl⟩ := List.mem_map.mp written
    cases segment with
    | fixed text =>
      obtain ⟨-, one, two⟩ := Segment.toList_ne_of_isPlain (plain _ mem)
      rw [Segment.written, Segment.spelled, Path.isDots_eq_false one two] at dots
      cases dots
    | slot name =>
      rw [Segment.written, Segment.spelled, Percent.isDots_encode] at dots
      exact ⟨name, mem_slots.mpr mem, dots⟩
  · rintro ⟨name, mem, dots⟩
    refine ⟨_, List.mem_map_of_mem (mem_slots.mp mem), ?_⟩
    rwa [Segment.written, Segment.spelled, Percent.isDots_encode]


end Template

/-- What a segment is spelled as is not empty. -/
theorem Segment.Spells.ne_nil {values : PathValues} {segment : Segment} {chars : List Char}
    (h : segment.Spells values chars) (plain : segment.isPlain = true) : chars ≠ [] := by
  cases h with
  | fixed text => exact (toList_ne_of_isPlain plain).1
  | slot filled => exact filled

/-- A path that is spelled has no empty segment. -/
theorem Segment.nil_not_mem_of_spells {values : PathValues} {segments : List Segment}
    {written : List (List Char)} (spelled : List.Forall₂ (Spells values) segments written)
    (plain : ∀ segment ∈ segments, segment.isPlain = true) : [] ∉ written := by
  induction spelled with
  | nil => exact List.not_mem_nil
  | cons own _ ih =>
    obtain ⟨first, others⟩ := List.forall_mem_cons.mp plain
    have filled := own.ne_nil first
    rw [List.mem_cons, not_or]
    exact ⟨filled.symm, ih others⟩

/-! ## The paths of the operations -/

section Operations

variable {version : ApiVersion} {op : Operation} {values : PathValues}

/-- With a dot segment, what is left of a path is not spelled by its operation, whatever the
values. -/
theorem not_spells_of_dotted (dotted : (template version op).dotted values = true)
    (others : PathValues) : ¬ (template version op).Spells others
      (Path.removeDots (Path.ofSegments ((template version op).written values))) := by
  rintro ⟨left, parts, spelled⟩
  have plain := isPlain_template version op
  rw [Path.splitOn_removeDots (not_mem_of_mem_written version op values (by decide)),
    List.cons.injEq] at parts
  obtain ⟨-, rfl⟩ := parts
  rcases Path.settle_changes [] ((Template.dotted_written plain).mpr dotted) with
    fewer | empty
  · have many := spelled.length_eq
    rw [← many, Template.written, List.length_map, List.length_nil] at fewer
    omega
  · exact Segment.nil_not_mem_of_spells spelled plain empty

/-- Without dot segments a path stays as it is. -/
theorem removeDots_eq_self (plain : (template version op).dotted values = false) :
    let path := Path.ofSegments ((template version op).written values)
    Path.removeDots path = path := by
  intro path
  have none : ∀ segment ∈ (template version op).written values, Path.isDots segment = false := by
    intro segment mem
    by_contra dots
    have dotted := (Template.dotted_written (isPlain_template version op)).mp
      ⟨segment, mem, Bool.not_eq_false _ ▸ dots⟩
    rw [plain] at dotted
    cases dotted
  show Path.removeDots (Path.ofSegments _) = _
  rw [Path.removeDots_ofSegments (not_mem_of_mem_written version op values (by decide)),
    Path.settle_eq_self none]
  rfl

end Operations

/-! ## The law of dot segments -/

namespace Catalog

/-- **Only an operation whose values are no dots reaches its own route.** Percent encoding leaves a
point as it is, so a path has a dot segment exactly if a value is `.` or `..`. Such a path changes
when dot segments are removed from it, and what is left is not spelled by its operation, whatever
the values. Every other path stays as it is, and is spelled by its operation only. -/
theorem dot_segments_law {c : Catalog} {name : String} {values : PathValues} {query : Query}
    {route : Route} (resolves : c.resolve name values query = .ok route) :
    ∃ op, Operation.ofName? name = some op ∧
      let t := template c.version op
      let path := route.path.toList
      let left := Path.removeDots path
      ((∃ segment ∈ path.splitOn '/', Path.isDots segment = true) ↔ t.dotted values = true) ∧
      (left = path ↔ t.dotted values = false) ∧
      ((∃ others, t.Spells others left) ↔ t.dotted values = false) ∧
      (t.dotted values = false → t.Spells values left ∧
        ∀ {other others}, (template c.version other).method = route.method →
          (template c.version other).Spells others left → other = op) := by
  unfold resolve at resolves
  split at resolves
  next op found =>
    obtain ⟨-, filled, same⟩ := route_eq_ok_iff.mp resolves
    refine ⟨op, found, ?_⟩
    intro t path left
    have written : path = Path.ofSegments (t.written values) := by
      show route.path.toList = _
      rw [same, Template.toList_path_eq]
    have parts : path.splitOn '/' = [] :: t.written values := by
      rw [written]
      exact Path.splitOn_ofSegments (not_mem_of_mem_written c.version op values (by decide))
    have spelled : t.Spells values path := ⟨t.written values, parts, Template.spells_written filled⟩
    have kept (plain : t.dotted values = false) : left = path := by
      show Path.removeDots path = path
      rw [written]
      exact removeDots_eq_self plain
    -- The other direction: with a dot segment, too few segments are left to spell anything of the
    -- operation.
    have plain_of_spells (others) (spells : t.Spells others left) : t.dotted values = false := by
      refine Bool.eq_false_iff.mpr fun dotted => not_spells_of_dotted dotted others ?_
      rwa [← written]
    refine ⟨?_, ⟨fun unchanged => ?_, kept⟩,
      ⟨fun ⟨others, spells⟩ => plain_of_spells others spells, ?_⟩, ?_⟩
    · rw [parts, List.exists_mem_cons_iff]
      exact (or_iff_right (by decide)).trans
        (Template.dotted_written (isPlain_template c.version op))
    · exact plain_of_spells values (unchanged ▸ spelled)
    · exact fun plain => ⟨values, kept plain ▸ spelled⟩
    · intro plain
      rw [kept plain]
      refine ⟨spelled, fun {other others} method ⟨again, parts', spelled'⟩ => ?_⟩
      obtain ⟨written', parts, spelled⟩ := spelled
      rw [parts, List.cons.injEq] at parts'
      rw [← parts'.2] at spelled'
      -- One path spells both templates, so these meet; no two operations have templates that do.
      have methods : (template c.version other).method = t.method := by rw [method, same]
      exact eq_of_meet_template (Bool.and_eq_true_iff.mpr
        ⟨beq_iff_eq.mpr methods, Segment.meetAll_of_spells spelled' spelled⟩)
  next => cases resolves

/-- Two points in a text are no dot segment. -/
theorem dot_segments_law_text :
    let values : PathValues := [("hash", .text "a..b")]
    let route : Route := ⟨.get, "/transaction/a..b/status", []⟩
    resolve {} "transaction_status" values [] = .ok route ∧
      Path.removeDots route.path.toList = route.path.toList := by
  intro values route
  have resolves : resolve {} "transaction_status" values [] = .ok route := by decide +kernel
  obtain ⟨op, found, -, kept, -⟩ := dot_segments_law resolves
  obtain rfl : Operation.transactionStatus = op := Option.some_inj.mp found
  exact ⟨resolves, kept.mpr (by decide +kernel)⟩

/-- The status of a transaction `.` is asked for. Without its dot segment the path is that of the
transaction `status`. -/
theorem dot_rerouted :
    ∃ route other : Route,
      resolve {} "transaction_status" [("hash", .text ".")] [] = .ok route ∧
      ['.'] ∈ route.path.toList.splitOn '/' ∧
      Path.removeDots route.path.toList ≠ route.path.toList ∧
      resolve {} "transaction" [("hash", .text "status")] [] = .ok other ∧
      other.method = route.method ∧ Path.removeDots route.path.toList = other.path.toList := by
  have left : Path.removeDots "/transaction/./status".toList = "/transaction/status".toList := by
    cbv
  refine ⟨⟨.get, "/transaction/./status", []⟩, ⟨.get, "/transaction/status", []⟩, by decide +kernel,
    by decide +kernel, ?_, by decide +kernel, rfl, left⟩
  rw [left]
  decide +kernel

end Catalog
end GatewayClient
