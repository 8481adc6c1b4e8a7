import GatewayClient.Endpoint.Catalog

/-!
# Dot segments

Whoever reads a URL may first remove the dot segments of its path: a segment `.` stands for nothing,
and `..` takes back the segment before it. `removeDots` does it as the standard of URLs says, with
an input that is used up from the front and an output.

**Segment by segment** (`removeDots_ofSegments`): on a path that is put together from segments, the
removal keeps a stack of segments. A dot segment at the end leaves an empty one.
-/

set_option autoImplicit false

namespace GatewayClient.Path

/-- A path of segments, each after its slash. -/
def ofSegments (segments : List (List Char)) : List Char := segments.flatMap ('/' :: ·)

/-- An output without its last segment and the slash before it. Outputs are kept last character
first. -/
def dropSegment (output : List Char) : List Char := (output.dropWhile (· != '/')).tail

/-- Use up the input from the front. What is no dot segment moves to the output. -/
def removeDotsInto (output : List Char) : (input : List Char) → List Char
  | [] => output.reverse
  | '.' :: '.' :: '/' :: rest => removeDotsInto output rest
  | '.' :: '/' :: rest => removeDotsInto output rest
  | '/' :: '.' :: '/' :: rest => removeDotsInto output ('/' :: rest)
  | ['/', '.'] => removeDotsInto output ['/']
  | '/' :: '.' :: '.' :: '/' :: rest => removeDotsInto (dropSegment output) ('/' :: rest)
  | ['/', '.', '.'] => removeDotsInto (dropSegment output) ['/']
  | ['.'] | ['.', '.'] => output.reverse
  | c :: rest =>
    removeDotsInto ((c :: rest.takeWhile (· != '/')).reverse ++ output)
      (rest.dropWhile (· != '/'))
termination_by input => input.length
decreasing_by
  all_goals simp only [List.length_cons]
  all_goals first
    | omega
    | exact Nat.lt_succ_of_le (List.dropWhile_suffix _).length_le

/-! ## Dot segments -/

/-- A path without its dot segments. -/
def removeDots (path : List Char) : List Char := removeDotsInto [] path

/-- Keep a stack of the segments that are left, the last one on top. -/
def settle (stack : List (List Char)) : (segments : List (List Char)) → List (List Char)
  | [] => stack.reverse
  | [['.']] => ([] :: stack).reverse
  | [['.', '.']] => ([] :: stack.tail).reverse
  | ['.'] :: rest => settle stack rest
  | ['.', '.'] :: rest => settle stack.tail rest
  | segment :: rest => settle (segment :: stack) rest

/-- A segment that is no dot segment goes on the stack. -/
theorem settle_cons {segment : List Char} (one : segment ≠ ['.']) (two : segment ≠ ['.', '.'])
    (stack rest : List (List Char)) :
    settle stack (segment :: rest) = settle (segment :: stack) rest := by
  rw [settle]
  · rintro same -
    exact one same
  · rintro same -
    exact two same
  · exact one
  · exact two

/-! ## One segment -/

section Steps

variable {segment rest : List Char}

/-- What follows a segment is nothing, or begins with a slash. -/
def Follows (rest : List Char) : Prop := rest = [] ∨ ∃ more, rest = '/' :: more

/-- A path of segments is nothing, or begins with a slash. -/
theorem follows_ofSegments (segments : List (List Char)) : Follows (ofSegments segments) := by
  cases segments with
  | nil => exact .inl rfl
  | cons segment segments => exact .inr ⟨segment ++ ofSegments segments, rfl⟩

theorem bne_slash_of_mem (free : '/' ∉ segment) : ∀ c ∈ segment, (c != '/') = true := by
  intro c mem
  rw [bne_iff_ne]
  rintro rfl
  exact free mem

/-- A segment is what stands before the next slash. -/
theorem takeWhile_append (free : '/' ∉ segment) (follows : Follows rest) :
    (segment ++ rest).takeWhile (· != '/') = segment := by
  rw [List.takeWhile_append_of_pos (bne_slash_of_mem free)]
  rcases follows with rfl | ⟨more, rfl⟩ <;> simp

theorem dropWhile_append (free : '/' ∉ segment) (follows : Follows rest) :
    (segment ++ rest).dropWhile (· != '/') = rest := by
  rw [List.dropWhile_append_of_pos (bne_slash_of_mem free)]
  rcases follows with rfl | ⟨more, rfl⟩ <;> simp

/-- A segment that is no dot segment moves to the output. -/
theorem removeDotsInto_segment (output : List Char) (free : '/' ∉ segment)
    (one : segment ≠ ['.']) (two : segment ≠ ['.', '.']) (follows : Follows rest) :
    removeDotsInto output ('/' :: (segment ++ rest)) =
      removeDotsInto (('/' :: segment).reverse ++ output) rest := by
  have taken := takeWhile_append free follows
  have left := dropWhile_append free follows
  -- a rule for dot segments applies only if the segment is one
  have other : ∀ dots more, segment ++ rest = dots ++ more → '/' ∉ dots → Follows more →
      dots ≠ ['.'] ∧ dots ≠ ['.', '.'] := by
    intro dots more same free' follows'
    rw [same, takeWhile_append free' follows'] at taken
    rw [taken]
    exact ⟨one, two⟩
  rw [removeDotsInto, taken, left]
  · exact nofun
  · exact nofun
  · rintro more - same
    exact (other ['.'] ('/' :: more) same (by decide) (.inr ⟨more, rfl⟩)).1 rfl
  · rintro - same
    exact (other ['.'] [] same (by decide) (.inl rfl)).1 rfl
  · rintro more - same
    exact (other ['.', '.'] ('/' :: more) same (by decide) (.inr ⟨more, rfl⟩)).2 rfl
  · rintro - same
    exact (other ['.', '.'] [] same (by decide) (.inl rfl)).2 rfl
  · exact nofun
  · exact nofun

end Steps

/-! ## All segments -/

section Stack

variable {stack segments : List (List Char)}

/-- The output that a stack stands for. -/
def output (stack : List (List Char)) : List Char := (ofSegments stack.reverse).reverse

/-- The output for a stack with one segment more. -/
theorem output_cons (segment : List Char) (stack : List (List Char)) :
    output (segment :: stack) = ('/' :: segment).reverse ++ output stack := by
  simp [output, ofSegments, List.flatMap_append]

/-- The output is the path of the stack, read backwards. -/
theorem reverse_output (stack : List (List Char)) :
    (output stack).reverse = ofSegments stack.reverse :=
  List.reverse_reverse _

/-- Taking back a segment of the output takes it off the stack. -/
theorem dropSegment_output (free : ∀ segment ∈ stack, '/' ∉ segment) :
    dropSegment (output stack) = output stack.tail := by
  cases stack with
  | nil => rfl
  | cons segment stack =>
    have own : '/' ∉ segment.reverse := mt List.mem_reverse.mp (free segment (.head _))
    rw [output_cons, List.reverse_cons, List.append_assoc, List.singleton_append, dropSegment,
      dropWhile_append own (.inr ⟨output stack, rfl⟩)]
    rfl

/-- A slash at the end leaves an empty segment. -/
theorem removeDotsInto_slash (stack : List (List Char)) :
    removeDotsInto (output stack) ['/'] = ofSegments ([] :: stack).reverse := by
  have empty : '/' ∉ ([] : List Char) := nofun
  have moved := removeDotsInto_segment (output stack) empty nofun nofun (.inl rfl)
  rw [← reverse_output, output_cons, ← removeDotsInto, ← moved]
  rfl

/-- The removal goes on segment by segment. The stack stands for the output so far. -/
theorem removeDotsInto_ofSegments (below : ∀ segment ∈ stack, '/' ∉ segment)
    (free : ∀ segment ∈ segments, '/' ∉ segment) :
    removeDotsInto (output stack) (ofSegments segments) = ofSegments (settle stack segments) := by
  have tail : ∀ {stack : List (List Char)}, (∀ segment ∈ stack, '/' ∉ segment) →
      ∀ segment ∈ stack.tail, '/' ∉ segment :=
    fun below segment mem => below segment (List.mem_of_mem_tail mem)
  induction stack, segments using settle.induct with
  | case1 stack => rw [ofSegments, List.flatMap_nil, removeDotsInto, reverse_output, settle]
  | case2 stack =>
    have last : ofSegments [['.']] = ['/', '.'] := rfl
    rw [last, removeDotsInto, removeDotsInto_slash, settle]
  | case3 stack =>
    have last : ofSegments [['.', '.']] = ['/', '.', '.'] := rfl
    rw [last, removeDotsInto, dropSegment_output below, removeDotsInto_slash, settle]
  | case4 stack rest more ih =>
    obtain ⟨-, free⟩ := List.forall_mem_cons.mp free
    cases rest with
    | nil => exact absurd rfl more
    | cons segment rest =>
      have next : ofSegments (['.'] :: segment :: rest) =
          '/' :: '.' :: '/' :: (segment ++ ofSegments rest) := rfl
      rw [next, removeDotsInto, settle]
      · exact ih below free
      · exact nofun
  | case5 stack rest more ih =>
    obtain ⟨-, free⟩ := List.forall_mem_cons.mp free
    cases rest with
    | nil => exact absurd rfl more
    | cons segment rest =>
      have next : ofSegments (['.', '.'] :: segment :: rest) =
          '/' :: '.' :: '.' :: '/' :: (segment ++ ofSegments rest) := rfl
      rw [next, removeDotsInto, dropSegment_output below, settle]
      · exact ih (tail below) free
      · exact nofun
  | case6 stack segment rest _ _ one two ih =>
    obtain ⟨own, free⟩ := List.forall_mem_cons.mp free
    have first : ofSegments (segment :: rest) = '/' :: (segment ++ ofSegments rest) := rfl
    rw [first, removeDotsInto_segment _ own one two (follows_ofSegments rest), ← output_cons,
      ih (List.forall_mem_cons.mpr ⟨own, below⟩) free, settle_cons one two]

/-- A path of segments loses its dot segments as its list of segments does. -/
theorem removeDots_ofSegments (free : ∀ segment ∈ segments, '/' ∉ segment) :
    removeDots (ofSegments segments) = ofSegments (settle [] segments) := by
  have below : ∀ segment ∈ ([] : List (List Char)), '/' ∉ segment := nofun
  exact removeDotsInto_ofSegments below free

example : removeDots "/address/../key/simulator".toList = "/key/simulator".toList := by cbv

end Stack

end GatewayClient.Path
