import GatewayClient.Json.Parser

/-!
# What the readers of numbers and strings take

A reader takes characters from the front of a text. What it takes it takes again before any other
rest, if that rest does not go on with it (`scalar_frame`, `string_frame`): a number goes on with a
digit, a point or the mark of an exponent, and nothing else goes on with anything.
-/

set_option autoImplicit false

namespace GatewayClient.Json

open GatewayClient.Text GatewayClient.Decimal

/-! ## Where a front ends -/

section Apart

variable {σ : Type} {p q : σ → Bool} {c : σ} {tail : List σ}

/-- The text does not begin with such a symbol. -/
def Apart (p : σ → Bool) (tail : List σ) : Prop := ∀ c ∈ tail.head?, p c = false

theorem apart_nil : Apart p [] := nofun

theorem apart_cons : Apart p (c :: tail) ↔ p c = false := by
  simp [Apart]

/-- A text that does not begin with any of some symbols does not begin with any of fewer. -/
theorem Apart.mono (h : Apart p tail) (weaker : ∀ c, q c = true → p c = true) : Apart q tail := by
  intro c mem
  have other := h c mem
  rw [Bool.eq_false_iff] at other ⊢
  exact fun holds => other (weaker c holds)

/-- A text begins as its front does. -/
theorem Apart.append {front : List σ} (first : Apart p front) (apart : Apart p tail) :
    Apart p (front ++ tail) := by
  cases front with
  | nil => exact apart
  | cons c front => exact apart_cons.mpr (apart_cons.mp first)

/-- The longest front of a kind ends where the text goes on with something else. -/
theorem takeWhile_append_apart {front : List σ} (all : ∀ c ∈ front, p c = true)
    (apart : Apart p tail) : (front ++ tail).takeWhile p = front := by
  rw [List.takeWhile_append_of_pos all]
  cases tail with
  | nil => rw [List.takeWhile_nil, List.append_nil]
  | cons c tail =>
    rw [List.takeWhile_cons_of_neg (Bool.eq_false_iff.mp (apart_cons.mp apart)), List.append_nil]

theorem dropWhile_append_apart {front : List σ} (all : ∀ c ∈ front, p c = true)
    (apart : Apart p tail) : (front ++ tail).dropWhile p = tail := by
  rw [List.dropWhile_append_of_pos all]
  cases tail with
  | nil => rfl
  | cons c tail => rw [List.dropWhile_cons_of_neg (Bool.eq_false_iff.mp (apart_cons.mp apart))]

end Apart

/-! ## Numbers -/

section Number

/-- A number may go on with the character. -/
def isNumeric (c : Char) : Bool := isAsciiDigit c || c == '.' || c == 'e' || c == 'E'

variable {negative : Bool} {cs whole digits rest tail : List Char} {fraction : Option (List Char)}
  {exponent : Option Int} {v : Json}

theorem isNumeric_of_isAsciiDigit (c : Char) (digit : isAsciiDigit c = true) :
    isNumeric c = true := by
  simp [isNumeric, digit]

theorem toNat_lt_of_isAsciiDigit {c : Char} (digit : isAsciiDigit c = true) : c.toNat < 0x80 := by
  have range : '0' ≤ c ∧ c ≤ '9' := by simpa [isAsciiDigit] using digit
  have most : c.toNat ≤ '9'.toNat := range.2
  exact Nat.lt_of_le_of_lt most (by decide)

/-- Digits are taken up to something else. -/
theorem takeDigits_append (all : ∀ c ∈ digits, isAsciiDigit c = true)
    (apart : Apart isAsciiDigit tail) : takeDigits (digits ++ tail) = (digits, tail) := by
  rw [takeDigits, takeWhile_append_apart all apart, dropWhile_append_apart all apart]

/-- The digits at the front, and what is left. -/
theorem takeDigits_parts (h : takeDigits cs = (digits, rest)) :
    cs = digits ++ rest ∧ ∀ c ∈ digits, isAsciiDigit c = true := by
  rw [takeDigits, Prod.mk.injEq] at h
  obtain ⟨rfl, rfl⟩ := h
  exact ⟨List.takeWhile_append_dropWhile.symm, List.all_eq_true.mp List.all_takeWhile⟩

theorem isWordChar_of_isAsciiDigit {c : Char} (digit : isAsciiDigit c = true) :
    isWordChar c = true := by
  have plain : c.isDigit = true := digit
  simp [isWordChar, Char.isAlphanum, plain]

/-- The zero character is none of a number or a word. -/
theorem zero_not_mem (word : ∀ c ∈ cs, isWordChar c = true) : '\x00' ∉ cs := fun mem =>
  absurd (word _ mem) (by decide)

/-- A whole part is taken again before anything that is no digit. -/
theorem wholePart_frame (h : wholePart cs = (whole, rest)) :
    cs = whole ++ rest ∧ (∀ c ∈ whole, isAsciiDigit c = true) ∧
      ∀ {tail}, Apart isAsciiDigit tail → wholePart (whole ++ tail) = (whole, tail) := by
  unfold wholePart at h
  split at h
  next zeros =>
    obtain ⟨rfl, rfl⟩ := Prod.mk.inj h
    exact ⟨rfl, by simp [isAsciiDigit], fun _ => rfl⟩
  next other =>
    obtain ⟨rfl, all⟩ := takeDigits_parts h
    refine ⟨rfl, all, fun {tail} apart => ?_⟩
    unfold wholePart
    split
    next rest' same =>
      cases whole with
      | nil =>
        rw [List.nil_append] at same
        subst same
        cases apart_cons.mp apart
      | cons c whole =>
        have first : c = '0' := (List.cons.inj same).1
        exact absurd (by rw [first]; rfl) (other (whole ++ rest))
    next => exact takeDigits_append all apart

/-- Where no point follows, there is no fraction. -/
theorem fractionPart_of_apart (apart : Apart (fun c => isAsciiDigit c || c == '.') tail) :
    fractionPart tail = (none, tail) := by
  unfold fractionPart
  split
  next => cases apart_cons.mp apart
  next => rfl

/-- A point with digits behind it is taken, or nothing. -/
theorem fractionPart_frame (h : fractionPart cs = (fraction, rest)) :
    ∃ used, cs = used ++ rest ∧ (∀ c ∈ used, isWordChar c = true) ∧
      (∀ c ∈ used.head?, c = '.') ∧
      ∀ {tail}, Apart (fun c => isAsciiDigit c || c == '.') tail →
        fractionPart (used ++ tail) = (fraction, tail) := by
  unfold fractionPart at h
  split at h
  next more =>
    cases taken : takeDigits more with | mk digits left =>
    rw [taken] at h
    dsimp only at h
    split at h
    next =>
      obtain ⟨rfl, rfl⟩ := Prod.mk.inj h
      exact ⟨[], rfl, nofun, nofun, fractionPart_of_apart⟩
    next filled =>
      obtain ⟨rfl, rfl⟩ := Prod.mk.inj h
      obtain ⟨rfl, all⟩ := takeDigits_parts taken
      refine ⟨'.' :: digits, rfl, ?_, by simp, fun {tail} apart => ?_⟩
      · exact List.forall_mem_cons.mpr ⟨rfl, fun c mem => isWordChar_of_isAsciiDigit (all c mem)⟩
      · have again := takeDigits_append all (apart.mono fun c digit => by simp [digit])
        rw [List.cons_append, fractionPart, again]
        dsimp only
        rw [if_neg filled]
  next =>
    obtain ⟨rfl, rfl⟩ := Prod.mk.inj h
    exact ⟨[], rfl, nofun, nofun, fractionPart_of_apart⟩

/-- A sign before digits is taken, or nothing. -/
theorem takeSign_frame {minus : Bool} (h : takeSign cs = (minus, rest)) :
    ∃ sign, cs = sign ++ rest ∧ (∀ c ∈ sign, c = '-' ∨ c = '+') ∧
      ∀ {tail}, Apart (fun c => c == '-' || c == '+') tail →
        takeSign (sign ++ tail) = (minus, tail) := by
  unfold takeSign at h
  split at h
  next =>
    obtain ⟨rfl, rfl⟩ := Prod.mk.inj h
    exact ⟨['-'], rfl, by simp, fun _ => rfl⟩
  next =>
    obtain ⟨rfl, rfl⟩ := Prod.mk.inj h
    exact ⟨['+'], rfl, by simp, fun _ => rfl⟩
  next =>
    obtain ⟨rfl, rfl⟩ := Prod.mk.inj h
    refine ⟨[], rfl, nofun, fun {tail} apart => ?_⟩
    rw [List.nil_append]
    unfold takeSign
    split
    next => cases apart_cons.mp apart
    next => cases apart_cons.mp apart
    next => rfl

/-- Digits begin with no sign. -/
theorem apart_sign_digits (all : ∀ c ∈ digits, isAsciiDigit c = true)
    (filled : ¬ digits.isEmpty = true) :
    Apart (fun c => c == '-' || c == '+') (digits ++ tail) := by
  cases digits with
  | nil => exact absurd rfl filled
  | cons d digits =>
    have digit := all d (.head _)
    refine apart_cons.mpr (Bool.eq_false_iff.mpr fun sign => ?_)
    rw [Bool.or_eq_true, beq_iff_eq, beq_iff_eq] at sign
    rcases sign with rfl | rfl <;> cases digit

/-- Where no mark follows, there is no exponent. -/
theorem exponentPart_of_apart (apart : Apart isNumeric tail) :
    exponentPart tail = (none, tail) := by
  unfold exponentPart
  split
  next mark tail =>
    have other := apart_cons.mp apart
    simp only [isNumeric, Bool.or_eq_false_iff] at other
    simp [other]
  next => rfl

/-- An exponent is taken with its mark, or nothing. -/
theorem exponentPart_frame (h : exponentPart cs = (exponent, rest)) :
    ∃ used, cs = used ++ rest ∧ (∀ c ∈ used, isWordChar c = true) ∧
      (∀ c ∈ used.head?, c = 'e' ∨ c = 'E') ∧
      ∀ {tail}, Apart isNumeric tail → exponentPart (used ++ tail) = (exponent, tail) := by
  unfold exponentPart at h
  -- Without digits behind it, the mark is not taken either.
  split at h
  next mark more =>
    split at h
    next marks =>
      cases signed : takeSign more with | mk minus unsigned =>
      cases taken : takeDigits unsigned with | mk digits left =>
      rw [signed] at h
      dsimp only at h
      rw [taken] at h
      dsimp only at h
      split at h
      next =>
        obtain ⟨rfl, rfl⟩ := Prod.mk.inj h
        exact ⟨[], rfl, nofun, nofun, exponentPart_of_apart⟩
      next filled =>
        obtain ⟨rfl, rfl⟩ := Prod.mk.inj h
        obtain ⟨sign, rfl, signs, again⟩ := takeSign_frame signed
        obtain ⟨rfl, all⟩ := takeDigits_parts taken
        refine ⟨mark :: (sign ++ digits), by simp, ?_, by simpa using marks,
          fun {tail} apart => ?_⟩
        · refine List.forall_mem_cons.mpr ⟨?_, List.forall_mem_append.mpr ⟨fun c mem => ?_, ?_⟩⟩
          · rw [Bool.or_eq_true, beq_iff_eq, beq_iff_eq] at marks
            rcases marks with rfl | rfl <;> rfl
          · rcases signs c mem with rfl | rfl <;> rfl
          · exact fun c mem => isWordChar_of_isAsciiDigit (all c mem)
        · rw [List.cons_append, List.append_assoc, exponentPart, if_pos marks,
            again (apart_sign_digits all filled)]
          dsimp only
          rw [takeDigits_append all (apart.mono isNumeric_of_isAsciiDigit)]
          dsimp only
          rw [if_neg filled]
    next =>
      obtain ⟨rfl, rfl⟩ := Prod.mk.inj h
      exact ⟨[], rfl, nofun, nofun, exponentPart_of_apart⟩
  next =>
    obtain ⟨rfl, rfl⟩ := Prod.mk.inj h
    exact ⟨[], rfl, nofun, nofun, exponentPart_of_apart⟩

/-- What the parts of a number say. -/
def numberOf (negative : Bool) (whole : List Char) (fraction : Option (List Char))
    (exponent : Option Int) : Except Fault Json :=
  if whole.isEmpty then .error .malformed
  else match fraction, exponent with
    | none, none =>
      if digitLimit < whole.length then .error (.tooManyDigits whole.length)
      else .ok (.num (.int (if negative then -natOfDigits whole else natOfDigits whole)))
    | _, _ =>
      let digits := fraction.getD []
      .ok (.num (.real (Numeral.toFloat ⟨negative, natOfDigits (whole ++ digits),
        exponent.getD 0 - digits.length⟩)))

/-- A number is read part by part. -/
theorem number_eq {afterWhole afterFraction : List Char}
    (first : wholePart cs = (whole, afterWhole))
    (second : fractionPart afterWhole = (fraction, afterFraction))
    (third : exponentPart afterFraction = (exponent, rest)) :
    number negative cs = (numberOf negative whole fraction exponent).map (·, rest) := by
  unfold number numberOf
  rw [first]
  dsimp only
  rw [second]
  dsimp only
  rw [third]
  dsimp only
  split
  next => rfl
  next =>
    cases fraction with
    | some digits => rfl
    | none =>
      cases exponent with
      | some n => rfl
      | none =>
        dsimp only
        split <;> rfl

/-- A number is taken again before any rest that it does not go on with. -/
theorem number_frame (h : number negative cs = .ok (v, rest)) :
    ∃ used, cs = used ++ rest ∧ (∀ c ∈ used, isWordChar c = true) ∧
      (∃ c ∈ used.head?, isAsciiDigit c = true) ∧
      ∀ {tail}, Apart isNumeric tail → number negative (used ++ tail) = .ok (v, tail) := by
  cases first : wholePart cs with | mk whole afterWhole =>
  cases second : fractionPart afterWhole with | mk fraction afterFraction =>
  cases third : exponentPart afterFraction with | mk exponent left =>
  rw [number_eq first second third] at h
  obtain ⟨rfl, digits, whole_again⟩ := wholePart_frame first
  obtain ⟨point, rfl, spelled, points, fraction_again⟩ := fractionPart_frame second
  obtain ⟨mark, rfl, spelled', marks, exponent_again⟩ := exponentPart_frame third
  cases said : numberOf negative whole fraction exponent with
  | error fault =>
    rw [said] at h
    cases h
  | ok value =>
    rw [said] at h
    obtain ⟨rfl, rfl⟩ := Prod.mk.inj (Except.ok.inj h)
    refine ⟨whole ++ (point ++ mark), by simp, ?_, ?_, fun {tail} apart => ?_⟩
    · exact List.forall_mem_append.mpr ⟨fun c mem => isWordChar_of_isAsciiDigit (digits c mem),
        List.forall_mem_append.mpr ⟨spelled, spelled'⟩⟩
    · cases whole with
      | nil => cases said
      | cons c whole => exact ⟨c, rfl, digits c (.head _)⟩
    -- What stands behind the whole part must not be taken for a digit, nor what is behind the
    -- fraction for a point.
    · have later : Apart (fun c => isAsciiDigit c || c == '.') (mark ++ tail) := by
        refine Apart.append (fun c mem => ?_) (apart.mono fun c either => ?_)
        · rcases marks c mem with rfl | rfl <;> rfl
        · rw [isNumeric, either]
          rfl
      have behind : Apart isAsciiDigit (point ++ (mark ++ tail)) := by
        refine Apart.append (fun c mem => ?_) (later.mono fun c digit => ?_)
        · rw [points c mem]
          rfl
        · rw [digit, Bool.true_or]
      rw [List.append_assoc, List.append_assoc,
        number_eq (whole_again behind) (fraction_again later) (exponent_again apart), said]
      rfl

/-! ## Scalars -/

/-- A value that is neither string, array nor object begins with such a character. -/
def opensScalar (c : Char) : Bool := isAsciiDigit c || ['-', 'n', 't', 'f', 'N', 'I'].contains c

/-- A digit begins a number. -/
theorem scalar_digit {d : Char} (digit : isAsciiDigit d = true) (cs : List Char) :
    scalar (d :: cs) = number false (d :: cs) := by
  rw [scalar]
  all_goals
    intro rest same
    cases (List.cons.inj same).1
    cases digit

/-- A minus before a digit begins a number. -/
theorem scalar_minus {d : Char} (digit : isAsciiDigit d = true) (cs : List Char) :
    scalar ('-' :: d :: cs) = number true (d :: cs) := by
  rw [scalar]
  intro rest same
  cases (List.cons.inj same).1
  cases digit

/-- A scalar is taken again before any rest that no number goes on with. The cases are the words, a
minus and a digit. -/
theorem scalar_frame (h : scalar cs = .ok (v, rest)) :
    ∃ used, cs = used ++ rest ∧ (∀ c ∈ used, isWordChar c = true) ∧
      (∃ c ∈ used.head?, opensScalar c = true) ∧
      ∀ {tail}, Apart isNumeric tail → scalar (used ++ tail) = .ok (v, tail) := by
  unfold scalar at h
  split at h
  next =>
    obtain ⟨rfl, rfl⟩ := Prod.mk.inj (Except.ok.inj h)
    exact ⟨"null".toList, rfl, List.all_eq_true.mp rfl, ⟨_, rfl, rfl⟩, fun _ => rfl⟩
  next =>
    obtain ⟨rfl, rfl⟩ := Prod.mk.inj (Except.ok.inj h)
    exact ⟨"true".toList, rfl, List.all_eq_true.mp rfl, ⟨_, rfl, rfl⟩, fun _ => rfl⟩
  next =>
    obtain ⟨rfl, rfl⟩ := Prod.mk.inj (Except.ok.inj h)
    exact ⟨"false".toList, rfl, List.all_eq_true.mp rfl, ⟨_, rfl, rfl⟩, fun _ => rfl⟩
  next =>
    obtain ⟨rfl, rfl⟩ := Prod.mk.inj (Except.ok.inj h)
    exact ⟨"NaN".toList, rfl, List.all_eq_true.mp rfl, ⟨_, rfl, rfl⟩, fun _ => rfl⟩
  next =>
    obtain ⟨rfl, rfl⟩ := Prod.mk.inj (Except.ok.inj h)
    exact ⟨"Infinity".toList, rfl, List.all_eq_true.mp rfl, ⟨_, rfl, rfl⟩, fun _ => rfl⟩
  next =>
    obtain ⟨rfl, rfl⟩ := Prod.mk.inj (Except.ok.inj h)
    exact ⟨"-Infinity".toList, rfl, List.all_eq_true.mp rfl, ⟨_, rfl, rfl⟩, fun _ => rfl⟩
  next rest _ =>
    obtain ⟨used, rfl, spelled, ⟨d, first, digit⟩, again⟩ := number_frame h
    obtain ⟨more, rfl⟩ := List.head?_eq_some_iff.mp first
    refine ⟨'-' :: d :: more, rfl, ?_, ⟨'-', rfl, rfl⟩, fun {tail} apart => ?_⟩
    · exact List.forall_mem_cons.mpr ⟨rfl, spelled⟩
    · rw [List.cons_append, List.cons_append, scalar_minus digit]
      exact again apart
  next =>
    obtain ⟨used, rfl, spelled, ⟨d, first, digit⟩, again⟩ := number_frame h
    obtain ⟨more, rfl⟩ := List.head?_eq_some_iff.mp first
    refine ⟨d :: more, rfl, spelled, ⟨d, rfl, ?_⟩, fun {tail} apart => ?_⟩
    · rw [opensScalar, digit, Bool.true_or]
    · rw [List.cons_append, scalar_digit digit]
      exact again apart

end Number

/-! ## Strings -/

section Strings

variable {ps rest : List CodePoint} {pieces : List Bytes.Piece}

/-- A piece comes in front of what was read behind it. -/
theorem prepend_eq_ok {piece : Bytes.Piece} {r : Reading CodePoint (List Bytes.Piece)}
    (h : prepend piece r = .ok (pieces, rest)) :
    ∃ more, pieces = piece :: more ∧ r = .ok (more, rest) := by
  cases r with
  | error fault => cases h
  | ok read =>
    obtain ⟨more, left⟩ := read
    obtain ⟨rfl, rfl⟩ := Prod.mk.inj (Except.ok.inj h)
    exact ⟨more, rfl, rfl⟩

/-- Four hexadecimal digits write a unit. -/
theorem stringPieces_unit {a b c d : Char} {unit : Nat} (hex : hexUnit? a b c d = some unit)
    (rest : List CodePoint) :
    stringPieces (.char '\\' :: .char 'u' :: .char a :: .char b :: .char c :: .char d :: rest) =
      prepend (.unit unit) (stringPieces rest) := by
  rw [stringPieces, hex]

/-- A letter behind a backslash stands for a character. -/
theorem stringPieces_escape {c d : Char} (known : escaped? c = some d) (rest : List CodePoint) :
    stringPieces (.char '\\' :: .char c :: rest) =
      prepend (.point (.char d)) (stringPieces rest) := by
  rw [stringPieces, known]
  rintro a b c d rest - rfl
  cases known

/-- A character that is no quote, no backslash and no control character stands for itself. -/
theorem stringPieces_plain {c : Char} (printed : 0x20 ≤ c.toNat) (quote : c ≠ '"')
    (backslash : c ≠ '\\') (rest : List CodePoint) :
    stringPieces (.char c :: rest) = prepend (.point (.char c)) (stringPieces rest) := by
  have plain : ¬ (c.toNat < 0x20 || c == '\\') = true := by
    simp only [Bool.or_eq_true, decide_eq_true_eq, beq_iff_eq, not_or]
    exact ⟨by omega, backslash⟩
  rw [stringPieces, if_neg plain]
  · exact fun same => absurd same quote
  · exact fun _ _ _ _ _ _ => backslash
  · exact fun _ _ _ => backslash

theorem char_mem_map {c : Char} {cs : List Char} :
    CodePoint.char c ∈ cs.map .char ↔ c ∈ cs := by
  simp

/-- Hexadecimal digits are no zero characters. -/
theorem zero_not_mem_hex {a b c d : Char} {unit : Nat} (hex : hexUnit? a b c d = some unit) :
    .char '\x00' ∉ [a, b, c, d].map CodePoint.char := by
  unfold hexUnit? at hex
  obtain ⟨_, first, hex⟩ := Option.bind_eq_some_iff.mp hex
  obtain ⟨_, second, hex⟩ := Option.bind_eq_some_iff.mp hex
  obtain ⟨_, third, hex⟩ := Option.bind_eq_some_iff.mp hex
  obtain ⟨_, fourth, -⟩ := Option.bind_eq_some_iff.mp hex
  intro mem
  simp only [char_mem_map, List.mem_cons, List.not_mem_nil, or_false] at mem
  rcases mem with rfl | rfl | rfl | rfl
  · cases first
  · cases second
  · cases third
  · cases fourth

/-- The code points are what a string is, before any rest, up to and with its closing quote. -/
def IsBody (used : List CodePoint) (pieces : List Bytes.Piece) : Prop :=
  .char '\x00' ∉ used ∧ ∀ tail, stringPieces (used ++ tail) = .ok (pieces, tail)

/-- One more part in front of a string. -/
theorem IsBody.cons {front used : List CodePoint} {piece : Bytes.Piece} (body : IsBody used pieces)
    (clean : .char '\x00' ∉ front)
    (step : ∀ tail, stringPieces (front ++ tail) = prepend piece (stringPieces tail)) :
    IsBody (front ++ used) (piece :: pieces) := by
  refine ⟨?_, fun tail => ?_⟩
  · rw [List.mem_append, not_or]
    exact ⟨clean, body.1⟩
  · rw [List.append_assoc, step, body.2, prepend]

/-- What stands before the closing quote is taken again before any rest. -/
theorem stringPieces_frame (h : stringPieces ps = .ok (pieces, rest)) :
    ∃ used, ps = used ++ rest ∧ IsBody used pieces := by
  induction ps using stringPieces.induct generalizing pieces with
  | case1 => cases h
  | case2 left =>
    obtain ⟨rfl, rfl⟩ := Prod.mk.inj (Except.ok.inj h)
    exact ⟨[.char '"'], rfl, by decide, fun _ => rfl⟩
  | case3 a b c d left unit hex ih =>
    rw [stringPieces_unit hex] at h
    obtain ⟨more, rfl, read⟩ := prepend_eq_ok h
    obtain ⟨used, rfl, body⟩ := ih read
    refine ⟨['\\', 'u', a, b, c, d].map CodePoint.char ++ used, rfl,
      body.cons ?_ (stringPieces_unit hex)⟩
    have clean := zero_not_mem_hex hex
    rw [List.map_cons, List.map_cons, List.mem_cons, List.mem_cons, not_or, not_or]
    exact ⟨by decide, by decide, clean⟩
  | case4 a b c d left hex =>
    rw [stringPieces, hex] at h
    cases h
  | case5 c left other d known ih =>
    rw [stringPieces_escape known] at h
    obtain ⟨more, rfl, read⟩ := prepend_eq_ok h
    obtain ⟨used, rfl, body⟩ := ih read
    refine ⟨['\\', c].map CodePoint.char ++ used, rfl, body.cons ?_ (stringPieces_escape known)⟩
    rw [char_mem_map]
    simp only [List.mem_cons, List.not_mem_nil, or_false, not_or]
    refine ⟨by decide, ?_⟩
    rintro rfl
    -- A zero character behind a backslash is no escape, so it was not taken.
    cases known
  | case6 c left other unknown =>
    rw [stringPieces, unknown] at h
    · cases h
    · exact other
  | case7 c left quote unit escape bad =>
    rw [stringPieces, if_pos bad] at h
    · cases h
    · exact quote
    · exact unit
    · exact escape
  | case8 c left quote _ _ plain ih =>
    simp only [Bool.or_eq_true, decide_eq_true_eq, beq_iff_eq, not_or] at plain
    have step := stringPieces_plain (Nat.not_lt.mp plain.1) quote plain.2
    rw [step] at h
    obtain ⟨more, rfl, read⟩ := prepend_eq_ok h
    obtain ⟨used, rfl, body⟩ := ih read
    refine ⟨[CodePoint.char c] ++ used, rfl, body.cons ?_ step⟩
    rw [List.mem_singleton, CodePoint.char.injEq]
    rintro rfl
    exact plain.1 (by decide)
  | case9 offset left ih =>
    rw [stringPieces] at h
    obtain ⟨more, rfl, read⟩ := prepend_eq_ok h
    obtain ⟨used, rfl, body⟩ := ih read
    exact ⟨[.surrogate offset] ++ used, rfl, body.cons (by simp) fun _ => by rfl⟩

/-- A string is taken again before any rest. -/
theorem string_frame {t : Text} (h : string ps = .ok (t, rest)) :
    ∃ used, ps = used ++ rest ∧ .char '\x00' ∉ used ∧
      ∀ tail, string (used ++ tail) = .ok (t, tail) := by
  unfold string at h
  split at h
  next pieces left read =>
    obtain ⟨rfl, rfl⟩ := Prod.mk.inj (Except.ok.inj h)
    obtain ⟨used, rfl, clean, again⟩ := stringPieces_frame read
    refine ⟨used, rfl, clean, fun tail => ?_⟩
    rw [string, again]
  next => cases h

end Strings
end GatewayClient.Json
