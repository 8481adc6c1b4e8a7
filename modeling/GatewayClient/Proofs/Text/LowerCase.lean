import GatewayClient.Text.Blank
import GatewayClient.Text.LowerCase

/-!
# Blanks and lower case

Stripping leaves what stands between the blanks at both ends of a text (`strip_parts`). Lower-casing
goes through a text character by character, and looks to both sides only for a sigma.

**A text in lower case stays as it is** (`lower_lower`): no small letter is the capital of another
one, which the table of capitals shows run by run (`clears_caseRuns`).

**Stripping and lower-casing commute** (`strip_lower`): no letter becomes a blank, no blank becomes
a letter, and a blank ends a word, so a sigma is final or not whatever blanks stand around the text.
-/

set_option autoImplicit false

namespace GatewayClient.Text

/-! ## Blanks around a text -/

section Trimming

variable {skip : Char → Bool} {cs before mid after : List Char}

/-- Neither the first nor the last character is one to skip. -/
def Trimmed (skip : Char → Bool) (cs : List Char) : Prop :=
  (∀ c ∈ cs.head?, skip c = false) ∧ ∀ c ∈ cs.getLast?, skip c = false

theorem dropWhile_eq_self (kept : ∀ c ∈ cs.head?, skip c = false) : cs.dropWhile skip = cs := by
  cases cs with
  | nil => rfl
  | cons c cs => simp [kept c rfl]

/-- What is left begins with something to keep. -/
theorem head?_dropWhile (skip : Char → Bool) (cs : List Char) :
    ∀ c ∈ (cs.dropWhile skip).head?, skip c = false := by
  intro c first
  have stopped := cs.head?_dropWhile_not skip
  rw [Option.mem_def.mp first] at stopped
  simpa using stopped

/-- What is cut off is to be skipped, and what is left is trimmed. -/
theorem trimBy_parts (skip : Char → Bool) (cs : List Char) :
    ∃ before after, cs = before ++ (trimBy skip cs ++ after) ∧ (∀ c ∈ before, skip c = true) ∧
      (∀ c ∈ after, skip c = true) ∧ Trimmed skip (trimBy skip cs) := by
  let kept := cs.dropWhile skip
  let tail := (kept.reverse.takeWhile skip).reverse
  have split : kept = trimBy skip cs ++ tail := by
    rw [trimBy, ← List.reverse_append, List.takeWhile_append_dropWhile, List.reverse_reverse]
  refine ⟨cs.takeWhile skip, tail, ?_, List.all_eq_true.mp List.all_takeWhile, fun c mem => ?_,
    fun c first => ?_, fun c last => ?_⟩
  · rw [← split, List.takeWhile_append_dropWhile]
  · exact List.all_eq_true.mp List.all_takeWhile c (List.mem_reverse.mp mem)
  · refine head?_dropWhile skip cs c ?_
    show c ∈ kept.head?
    rw [split, List.head?_append, Option.mem_def.mp first]
    rfl
  · rw [trimBy, List.getLast?_reverse] at last
    exact head?_dropWhile skip kept.reverse c last

/-- What stands between characters to skip is what is left. -/
theorem trimBy_eq (leading : ∀ c ∈ before, skip c = true) (trailing : ∀ c ∈ after, skip c = true)
    (trimmed : Trimmed skip mid) : trimBy skip (before ++ (mid ++ after)) = mid := by
  rw [trimBy, List.dropWhile_append_of_pos leading]
  cases mid with
  | nil =>
    have all : (after ++ []).dropWhile skip = [] := List.dropWhile_append_of_pos trailing
    rw [List.append_nil] at all
    rw [List.nil_append, all]
    rfl
  | cons c rest =>
    have start : ∀ d ∈ (c :: rest ++ after).head?, skip d = false := trimmed.1
    have backwards : ∀ c ∈ after.reverse, skip c = true :=
      fun c mem => trailing c (List.mem_reverse.mp mem)
    have finish : ∀ d ∈ (c :: rest).reverse.head?, skip d = false := by
      rw [List.head?_reverse]
      exact trimmed.2
    rw [dropWhile_eq_self start, List.reverse_append, List.dropWhile_append_of_pos backwards,
      dropWhile_eq_self finish, List.reverse_reverse]

theorem trimBy_of_trimmed (trimmed : Trimmed skip mid) : trimBy skip mid = mid := by
  have none : ∀ c ∈ ([] : List Char), skip c = true := fun _ mem => absurd mem List.not_mem_nil
  have alone := trimBy_eq none none trimmed
  rwa [List.nil_append, List.append_nil] at alone

/-- A text is its stripped form with blanks around it. -/
theorem strip_parts (s : String) :
    ∃ before after, s.toList = before ++ ((strip s).toList ++ after) ∧
      (∀ c ∈ before, isBlank c = true) ∧ (∀ c ∈ after, isBlank c = true) ∧
      Trimmed isBlank (strip s).toList := by
  rw [strip, String.toList_ofList]
  exact trimBy_parts isBlank s.toList

theorem strip_strip (s : String) : strip (strip s) = strip s := by
  obtain ⟨-, -, -, -, -, trimmed⟩ := strip_parts s
  rw [strip, trimBy_of_trimmed trimmed, String.ofList_toList]

end Trimming

/-! ## The table of capitals -/

section Tables

/-- What holds of every code of the ranges holds of every code that they cover. -/
theorem of_covers {ranges : List CodeRange} {P : Nat → Bool}
    (all : (ranges.all fun range =>
      (List.range' range.1 (range.2 + 1 - range.1)).all P) = true)
    {code : Nat} (covered : CodeRange.covers ranges code = true) : P code = true := by
  obtain ⟨range, listed, inside⟩ := List.any_eq_true.mp covered
  rw [Bool.and_eq_true, decide_eq_true_eq, decide_eq_true_eq] at inside
  refine List.all_eq_true.mp (List.all_eq_true.mp all range listed) code ?_
  rw [List.mem_range'_1]
  omega

namespace CaseRun

/-- The code is that of a capital of the run. -/
def holds (run : CaseRun) (code : Nat) : Bool :=
  run.first ≤ code && code ≤ run.last && (code - run.first) % run.step == 0

/-- The last code that a small letter of the run may have. -/
def reach (run : CaseRun) : Nat := run.small + (run.last - run.first)

/-- No small letter of the run is a capital of the other one: they stand apart, or the capitals
stand at every second code and the small letters at the codes between. -/
def clears (run other : CaseRun) : Bool :=
  other.last < run.small || run.reach < other.first ||
    ((run.step == 2 || run.first == run.last) && other.step == 2 &&
      run.small % 2 != other.first % 2)

/-- No small letter of the run is in the range. -/
def avoids (run : CaseRun) (range : CodeRange) : Bool :=
  range.2 < run.small || run.reach < range.1

/-- Ranges where no small letter stands: the blanks, the dotted capital I, and the codes that are
not those of a character. -/
def emptyRanges : List CodeRange :=
  (0x130, 0x130) :: (0xD800, 0xDFFF) :: (0x110000, 0xFFFFFFFF) :: blankRanges

end CaseRun

/-- No small letter of a run is a capital of another one. -/
theorem clears_caseRuns : (caseRuns.all fun run => caseRuns.all run.clears) = true := by
  decide +kernel

/-- No small letter of a run stands in a range where none does. -/
theorem avoids_caseRuns :
    (caseRuns.all fun run => CaseRun.emptyRanges.all run.avoids) = true := by
  decide +kernel

/-- The code of the small letter of a capital. -/
def CaseRun.smallCode (run : CaseRun) (code : Nat) : Nat := run.small + (code - run.first)

variable {run other : CaseRun} {code : Nat}

/-- A small letter is the capital of no run. -/
theorem not_holds_smallCode (listed : run ∈ caseRuns) (capital : run.holds code = true)
    (other_listed : other ∈ caseRuns) : other.holds (run.smallCode code) = false := by
  have clear := List.all_eq_true.mp (List.all_eq_true.mp clears_caseRuns run listed) other
    other_listed
  have reach : run.reach = run.small + (run.last - run.first) := rfl
  have small : run.smallCode code = run.small + (code - run.first) := rfl
  simp only [CaseRun.clears, CaseRun.holds, Bool.or_eq_true, Bool.and_eq_true, decide_eq_true_eq,
    beq_iff_eq, bne_iff_ne] at clear capital
  rw [Bool.eq_false_iff]
  intro held
  simp only [CaseRun.holds, Bool.and_eq_true, decide_eq_true_eq, beq_iff_eq] at held
  obtain ⟨⟨least, most⟩, step⟩ := capital
  obtain ⟨⟨least', most'⟩, step'⟩ := held
  rcases clear with (below | past) | ⟨⟨steps | single, twos⟩, parity⟩
  · omega
  · omega
  · rw [steps] at step
    rw [twos] at step'
    omega
  · rw [twos] at step'
    omega

/-- A small letter is in none of the ranges where none stands. -/
theorem not_mem_smallCode (listed : run ∈ caseRuns) (capital : run.holds code = true)
    (range : CodeRange) (empty : range ∈ CaseRun.emptyRanges) :
    ¬ (range.1 ≤ run.smallCode code ∧ run.smallCode code ≤ range.2) := by
  have clear := List.all_eq_true.mp (List.all_eq_true.mp avoids_caseRuns run listed) range empty
  have reach : run.reach = run.small + (run.last - run.first) := rfl
  have small : run.smallCode code = run.small + (code - run.first) := rfl
  simp only [CaseRun.avoids, CaseRun.holds, Bool.or_eq_true, Bool.and_eq_true,
    decide_eq_true_eq] at clear capital
  omega

end Tables

/-! ## Letter by letter -/

section Letters

variable {c d : Char} {before rest : List Char}

/-- The character is its own small letter. -/
def IsSmall (c : Char) : Prop := c ≠ '\u0130' ∧ c ≠ '\u03a3' ∧ lowerChar c = c

instance : DecidablePred IsSmall := fun _ => inferInstanceAs (Decidable (_ ∧ _ ∧ _))

/-- The code of the small letter of a capital is that of a character. -/
theorem toNat_smallCode {run : CaseRun} {code : Nat} (listed : run ∈ caseRuns)
    (capital : run.holds code = true) :
    (Char.ofNat (run.smallCode code)).toNat = run.smallCode code := by
  have surrogate := not_mem_smallCode listed capital (0xD800, 0xDFFF) (by decide)
  have beyond := not_mem_smallCode listed capital (0x110000, 0xFFFFFFFF) (by decide)
  have valid : (run.smallCode code).isValidChar := by
    have small : run.smallCode code = run.small + (code - run.first) := rfl
    have bound : caseRuns.all (fun run => run.reach < 0xFFFFFFFF) = true := by decide +kernel
    have within := List.all_eq_true.mp bound run listed
    have reach : run.reach = run.small + (run.last - run.first) := rfl
    simp only [CaseRun.holds, Bool.and_eq_true, decide_eq_true_eq] at capital within
    simp only [Nat.isValidChar]
    omega
  rw [Char.ofNat, dif_pos valid]
  rfl

/-- A character of ASCII is its own small letter, or one of the 26 capitals. -/
theorem toLower_ascii {c : Char} (ascii : c.toNat < 0x80) : c.toLower = c ∨
    0x41 ≤ c.toNat ∧ c.toNat ≤ 0x5A ∧ c.toLower = Char.ofNat (0x61 + (c.toNat - 0x41)) := by
  have all : ∀ n : Fin 0x80, (Char.ofNat n).toLower = Char.ofNat n ∨
      0x41 ≤ n.val ∧ n.val ≤ 0x5A ∧
        (Char.ofNat n).toLower = Char.ofNat (0x61 + (n.val - 0x41)) := by decide
  have found := all ⟨c.toNat, ascii⟩
  rwa [Char.ofNat_toNat] at found

/-- A character is its own small letter, or a capital of the table. -/
theorem lowerChar_cases (c : Char) : lowerChar c = c ∨
    ∃ run ∈ caseRuns, run.holds c.toNat = true ∧
      lowerChar c = Char.ofNat (run.smallCode c.toNat) := by
  unfold lowerChar
  split
  next ascii =>
    refine (toLower_ascii ascii).imp_right fun ⟨least, most, small⟩ => ?_
    refine ⟨⟨0x41, 0x5A, 1, 0x61⟩, .head _, ?_, small⟩
    simp [CaseRun.holds, least, most, Nat.mod_one]
  next =>
    split
    next run found =>
      have capital := List.find?_some found
      exact .inr ⟨run, List.mem_of_find?_eq_some found, capital, rfl⟩
    next => exact .inl rfl

/-- A character that is no capital of the table is its own small letter. -/
theorem lowerChar_eq_self (plain : ∀ run ∈ caseRuns, run.holds c.toNat = false) :
    lowerChar c = c := by
  refine (lowerChar_cases c).resolve_right ?_
  rintro ⟨run, listed, capital, -⟩
  exact Bool.false_ne_true ((plain run listed).symm.trans capital)

/-- A character has a small letter, unless it is the dotted capital I or the sigma. -/
theorem isSmall_lowerChar (dotted : c ≠ '\u0130') (sigma : c ≠ '\u03a3') :
    IsSmall (lowerChar c) := by
  rcases lowerChar_cases c with same | ⟨run, listed, capital, small⟩
  · rw [same]
    exact ⟨dotted, sigma, same⟩
  have code := toNat_smallCode listed capital
  have plain : ∀ other ∈ caseRuns, other.holds (lowerChar c).toNat = false := by
    intro other known
    rw [small, code]
    exact not_holds_smallCode listed capital known
  refine ⟨fun same => ?_, fun same => ?_, lowerChar_eq_self plain⟩
  · refine not_mem_smallCode listed capital (0x130, 0x130) (by decide) ?_
    rw [← code, ← small, same]
    decide
  · have capital : caseRuns.any (·.holds '\u03a3'.toNat) = true := by decide +kernel
    obtain ⟨other, known, held⟩ := List.any_eq_true.mp capital
    rw [← same] at held
    exact Bool.false_ne_true ((plain other known).symm.trans held)

/-- No blank is a capital. -/
theorem not_holds_of_isBlank (blank : isBlank c = true) :
    ∀ run ∈ caseRuns, run.holds c.toNat = false := by
  have plain := of_covers (P := fun code => caseRuns.all fun run => !run.holds code)
    (by decide +kernel) blank
  intro run listed
  exact Bool.not_eq_true' _ ▸ List.all_eq_true.mp plain run listed

/-- No letter becomes a blank, and no blank a letter. -/
theorem isBlank_lowerChar (c : Char) : isBlank (lowerChar c) = isBlank c := by
  rcases lowerChar_cases c with same | ⟨run, listed, capital, small⟩
  · rw [same]
  have filled : isBlank c = false := by
    rw [Bool.eq_false_iff]
    intro blank
    exact Bool.false_ne_true ((not_holds_of_isBlank blank run listed).symm.trans capital)
  rw [filled, small, isBlank, CodeRange.covers, toNat_smallCode listed capital, List.any_eq_false]
  intro range blank covers
  rw [Bool.and_eq_true, decide_eq_true_eq, decide_eq_true_eq] at covers
  exact not_mem_smallCode listed capital range (.tail _ (.tail _ (.tail _ blank))) covers

/-- A blank is no sigma, and no dotted capital I. -/
theorem isSmall_of_isBlank (blank : isBlank c = true) : IsSmall c := by
  refine ⟨?_, ?_, lowerChar_eq_self (not_holds_of_isBlank blank)⟩
  all_goals
    rintro rfl
    exact absurd blank (by decide)

/-- What a character is written as in lower case, between those before it, nearest first, and those
after it. -/
def smallOf (before : List Char) (c : Char) (rest : List Char) : List Char :=
  if c == '\u0130' then ['i', '\u0307']
  else if c == '\u03a3' then
    if meetsCased before && !meetsCased rest then ['\u03c2'] else ['\u03c3']
  else [lowerChar c]

theorem lowerFrom_cons (before : List Char) (c : Char) (rest : List Char) :
    lowerFrom before (c :: rest) = smallOf before c rest ++ lowerFrom (c :: before) rest :=
  rfl

theorem smallOf_ne_nil : smallOf before c rest ≠ [] := by
  unfold smallOf
  split
  · exact List.cons_ne_nil _ _
  · split
    · split <;> exact List.cons_ne_nil _ _
    · exact List.cons_ne_nil _ _

/-- A small letter is written as itself. -/
theorem smallOf_of_isSmall (small : IsSmall c) : smallOf before c rest = [c] := by
  obtain ⟨dotted, sigma, same⟩ := small
  simp [smallOf, dotted, sigma, same]

/-- Whatever a character is written as, it is small, and a blank if the character is one. -/
theorem of_mem_smallOf (mem : d ∈ smallOf before c rest) :
    IsSmall d ∧ isBlank d = isBlank c := by
  have plain : (['i', '\u0307', '\u03c2', '\u03c3'].all fun d =>
      caseRuns.all fun run => !run.holds d.toNat) = true := by decide +kernel
  have other : (['i', '\u0307', '\u03c2', '\u03c3'].all fun d =>
      d != '\u0130' && d != '\u03a3' && !isBlank d) = true := by decide +kernel
  -- The four letters that a dotted capital I or a sigma can become, checked one by one.
  have letters : ∀ d ∈ ['i', '\u0307', '\u03c2', '\u03c3'], IsSmall d ∧ isBlank d = false := by
    intro d mem
    have same := lowerChar_eq_self fun run listed => Bool.not_eq_true' _ ▸
      List.all_eq_true.mp (List.all_eq_true.mp plain d mem) run listed
    have apart := List.all_eq_true.mp other d mem
    rw [Bool.and_eq_true, Bool.and_eq_true, bne_iff_ne, bne_iff_ne, Bool.not_eq_true'] at apart
    exact ⟨⟨apart.1.1, apart.1.2, same⟩, apart.2⟩
  unfold smallOf at mem
  split at mem
  next dotted =>
    rw [beq_iff_eq.mp dotted]
    exact letters d (List.mem_append_left _ mem)
  next dotted =>
    split at mem
    next sigma =>
      rw [beq_iff_eq.mp sigma]
      split at mem
      · exact letters d (.tail _ (.tail _ (List.mem_singleton.mp mem ▸ .head _)))
      · exact letters d (.tail _ (.tail _ (.tail _ mem)))
    next sigma =>
      rw [List.mem_singleton.mp mem]
      rw [beq_iff_eq] at dotted sigma
      exact ⟨isSmall_lowerChar dotted sigma, isBlank_lowerChar c⟩

end Letters

/-! ## Whole texts -/

section LowerCase

variable {c : Char} {cs before mid after : List Char}

/-- Small letters stay as they are, whatever stands around them. -/
theorem lowerFrom_append (before : List Char) (small : ∀ c ∈ mid, IsSmall c)
    (after : List Char) :
    lowerFrom before (mid ++ after) = mid ++ lowerFrom (mid.reverse ++ before) after := by
  induction mid generalizing before with
  | nil => rfl
  | cons c mid ih =>
    obtain ⟨own, others⟩ := List.forall_mem_cons.mp small
    rw [List.cons_append, lowerFrom_cons, smallOf_of_isSmall own, ih _ others, List.reverse_cons,
      List.append_assoc]
    rfl

/-- In lower case there are only small letters. -/
theorem isSmall_of_mem_lowerFrom {d : Char} (mem : d ∈ lowerFrom before cs) : IsSmall d := by
  induction cs generalizing before with
  | nil => cases mem
  | cons c rest ih =>
    rw [lowerFrom_cons, List.mem_append] at mem
    exact mem.elim (fun mem => (of_mem_smallOf mem).1) ih

/-- A text in lower case stays as it is. -/
theorem lower_lower (s : String) : lower (lower s) = lower s := by
  have small : ∀ d ∈ lowerFrom [] s.toList, IsSmall d := fun d mem => isSmall_of_mem_lowerFrom mem
  have same := lowerFrom_append [] small []
  rw [List.append_nil] at same
  rw [lower, lower, String.toList_ofList, same]
  simp [lowerFrom]

/-- Blanks do not hide or show a cased character. -/
theorem meetsCased_append (blanks : ∀ c ∈ after, isBlank c = true) :
    meetsCased (cs ++ after) = meetsCased cs := by
  have uncased : ∀ c, isBlank c = true → CodeRange.covers casedRanges c.toNat = false := by
    intro c blank
    have none := of_covers (P := fun code => !CodeRange.covers casedRanges code)
      (by decide +kernel) blank
    simpa using none
  unfold meetsCased
  rw [List.find?_append]
  cases cs.find? fun c => !CodeRange.covers caseIgnorableRanges c.toNat with
  | some c => rfl
  | none =>
    cases found : after.find? fun c => !CodeRange.covers caseIgnorableRanges c.toNat with
    | none => rfl
    | some c => exact uncased c (blanks c (List.mem_of_find?_eq_some found))

/-- Blanks around a text change nothing about its letters. -/
theorem lowerFrom_between {blanks : List Char} (leading : ∀ c ∈ blanks, isBlank c = true)
    (trailing : ∀ c ∈ after, isBlank c = true) (before mid : List Char) :
    lowerFrom (before ++ blanks) (mid ++ after) = lowerFrom before mid ++ after := by
  induction mid generalizing before with
  | nil =>
    have small : ∀ c ∈ after, IsSmall c := fun c mem => isSmall_of_isBlank (trailing c mem)
    have same := lowerFrom_append (before ++ blanks) small []
    rw [List.append_nil] at same
    rw [List.nil_append, same]
    simp [lowerFrom]
  | cons c mid ih =>
    have letter : smallOf (before ++ blanks) c (mid ++ after) = smallOf before c mid := by
      rw [smallOf, meetsCased_append leading, meetsCased_append trailing]
      rfl
    rw [List.cons_append, lowerFrom_cons, letter, ← List.cons_append, ih, lowerFrom_cons,
      List.append_assoc]

/-- The last character in lower case is a blank exactly if the last one was. -/
theorem exists_getLast?_lowerFrom {d : Char} (last : d ∈ (lowerFrom before cs).getLast?) :
    ∃ c ∈ cs.getLast?, isBlank d = isBlank c := by
  induction cs generalizing before with
  | nil => cases last
  | cons c rest ih =>
    rw [lowerFrom_cons, List.getLast?_append] at last
    cases rest with
    | nil =>
      have mem : d ∈ smallOf before c [] := List.mem_of_getLast? last
      exact ⟨c, rfl, (of_mem_smallOf mem).2⟩
    | cons next rest =>
      have filled : lowerFrom (c :: before) (next :: rest) ≠ [] := by
        rw [lowerFrom_cons]
        exact List.append_ne_nil_of_left_ne_nil smallOf_ne_nil _
      rw [List.getLast?_eq_some_getLast filled, Option.some_or,
        ← List.getLast?_eq_some_getLast filled] at last
      rw [List.getLast?_cons_cons]
      exact ih last

/-- A trimmed text is trimmed in lower case too. -/
theorem trimmed_lowerFrom (trimmed : Trimmed isBlank cs) :
    Trimmed isBlank (lowerFrom before cs) := by
  constructor
  · intro d first
    cases cs with
    | nil => cases first
    | cons c rest =>
      have filled : smallOf before c rest ≠ [] := smallOf_ne_nil
      rw [lowerFrom_cons, List.head?_append, List.head?_eq_some_head filled, Option.some_or,
        ← List.head?_eq_some_head filled] at first
      rw [(of_mem_smallOf (List.mem_of_head? first)).2]
      exact trimmed.1 c rfl
  · intro d last
    obtain ⟨c, here, same⟩ := exists_getLast?_lowerFrom last
    rw [same]
    exact trimmed.2 c here

/-- In lower case too, a text is its stripped form with the same blanks around it. -/
theorem lower_parts (s : String) :
    ∃ before after, s.toList = before ++ ((strip s).toList ++ after) ∧
      (lower s).toList = before ++ ((lower (strip s)).toList ++ after) ∧
      (∀ c ∈ before, isBlank c = true) ∧ (∀ c ∈ after, isBlank c = true) ∧
      Trimmed isBlank (lower (strip s)).toList := by
  obtain ⟨before, after, parts, leading, trailing, trimmed⟩ := strip_parts s
  refine ⟨before, after, parts, ?_, leading, trailing, ?_⟩
  · have small : ∀ c ∈ before, IsSmall c := fun c mem => isSmall_of_isBlank (leading c mem)
    have reversed : ∀ c ∈ before.reverse, isBlank c = true :=
      fun c mem => leading c (List.mem_reverse.mp mem)
    have letters := lowerFrom_between reversed trailing [] (strip s).toList
    rw [lower, lower, String.toList_ofList, String.toList_ofList, parts, lowerFrom_append [] small,
      List.append_nil, ← letters, List.nil_append]
  · rw [lower, String.toList_ofList]
    exact trimmed_lowerFrom trimmed

/-- Stripping and lower-casing commute. -/
theorem strip_lower (s : String) : strip (lower s) = lower (strip s) := by
  obtain ⟨before, after, -, parts, leading, trailing, trimmed⟩ := lower_parts s
  rw [strip, parts, trimBy_eq leading trailing trimmed, String.ofList_toList]

/-- Only a text without blanks around it has the same lower case as what is left when it is
stripped. -/
theorem lower_strip_eq_iff {s : String} : lower (strip s) = lower s ↔ strip s = s := by
  constructor
  · intro same
    obtain ⟨before, after, parts, small, -⟩ := lower_parts s
    have lengths := congrArg List.length small
    rw [same] at lengths
    simp only [List.length_append] at lengths
    have none : before = [] ∧ after = [] := by
      simp only [← List.length_eq_zero_iff]
      omega
    rw [none.1, none.2, List.nil_append, List.append_nil] at parts
    exact String.toList_inj.mp parts.symm
  · intro same
    rw [same]

end LowerCase

end GatewayClient.Text
