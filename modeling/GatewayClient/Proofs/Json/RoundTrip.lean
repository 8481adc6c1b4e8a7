import GatewayClient.Json.Printer
import GatewayClient.Proofs.Json.Encoding
import Mathlib.Data.List.Chain

/-!
# What is encoded is what is decoded

`render` writes a value by the grammar (`writes_render`): a whole number as its digits, a string as
escapes and printed characters, arrays and objects without blanks. So a value without doubles is
read back from its text, keys in their order (`ofText_compact`), and from the text's bytes, all of
which are ASCII.

Four things are not read back as they are, and a plain value has none of them: a double, a whole
number with more digits than the reader takes, an object with a key twice, and a text where both
halves of a surrogate pair stand in a row. No string has such a place (`Text.isSettled_coe`).
-/

set_option autoImplicit false

namespace GatewayClient

/-- Nowhere in the text does the first half of a surrogate pair stand right before a second one. -/
def Text.isSettled (t : Text) : Bool :=
  t.points.IsChain fun p q => ¬ (Bytes.isHighSurrogate p.code && Bytes.isLowSurrogate q.code) = true

/-- A string has no surrogates. -/
theorem Text.isSettled_coe (s : String) : (s : Text).isSettled = true := by
  refine decide_eq_true ((List.isChain_map CodePoint.char).mpr ?_)
  refine List.Pairwise.isChain (List.pairwise_of_forall fun c d => ?_)
  have valid : c.toNat < 0xD800 ∨ 0xDFFF < c.toNat ∧ c.toNat < 0x110000 := c.valid
  have code : (CodePoint.char c).code = c.toNat := rfl
  simp only [code, Bytes.isHighSurrogate, Bool.and_eq_true, decide_eq_true_eq]
  omega

namespace Json

open GatewayClient.Text GatewayClient.Decimal

/-! ## Plain values -/

mutual

/-- The value has no doubles, no whole number beyond the digit limit, no object with a key twice
and no text with both halves of a surrogate pair in a row. -/
def isPlain : Json → Bool
  | .null | .bool _ => true
  | .str t => t.isSettled
  | .num (.int n) => (Nat.toDigits 10 n.natAbs).length ≤ digitLimit
  | .num (.real _) => false
  | .arr items => arePlain items
  | .obj fields => (fields.map (·.1)).Nodup && arePlainFields fields

/-- All items are plain. -/
def arePlain : List Json → Bool
  | [] => true
  | item :: rest => isPlain item && arePlain rest

/-- All fields have plain values, and keys that are read back. -/
def arePlainFields : List (Text × Json) → Bool
  | [] => true
  | (key, item) :: rest => key.isSettled && isPlain item && arePlainFields rest

end

theorem arePlain_iff {items : List Json} :
    arePlain items = true ↔ ∀ item ∈ items, item.isPlain = true := by
  induction items with
  | nil => exact ⟨fun _ => nofun, fun _ => rfl⟩
  | cons item rest ih => rw [arePlain, Bool.and_eq_true, ih, List.forall_mem_cons]

mutual

/-- A plain value can be written. -/
theorem isWritable_of_isPlain (v : Json) (plain : v.isPlain = true) : v.isWritable = true := by
  match v with
  | .null | .bool _ | .str _ => rfl
  | .num (.int n) => exact plain
  | .num (.real x) => cases plain
  | .arr items => exact areWritable_of_arePlain items plain
  | .obj fields =>
    rw [isPlain, Bool.and_eq_true] at plain
    exact areWritableFields_of_arePlainFields fields plain.2

theorem areWritable_of_arePlain (items : List Json) (plain : arePlain items = true) :
    areWritable items = true := by
  match items with
  | [] => rfl
  | item :: rest =>
    rw [arePlain, Bool.and_eq_true] at plain
    rw [areWritable, isWritable_of_isPlain item plain.1, areWritable_of_arePlain rest plain.2]
    rfl

theorem areWritableFields_of_arePlainFields (fields : List (Text × Json))
    (plain : arePlainFields fields = true) : areWritableFields fields = true := by
  match fields with
  | [] => rfl
  | (key, item) :: rest =>
    rw [arePlainFields, Bool.and_eq_true, Bool.and_eq_true] at plain
    rw [areWritableFields, isWritable_of_isPlain item plain.1.2,
      areWritableFields_of_arePlainFields rest plain.2]
    rfl

end

/-- A plain value is written as its text. -/
theorem compact?_of_isPlain {v : Json} (plain : v.isPlain = true) : v.compact? = some v.compact :=
  if_pos (isWritable_of_isPlain v plain)

/-! ## Numbers -/

section Numbers

variable {n : Nat}

/-- A number is written in digits. -/
theorem isAsciiDigit_of_mem_toDigits {c : Char} (mem : c ∈ Nat.toDigits 10 n) :
    isAsciiDigit c = true :=
  Nat.isDigit_of_mem_toDigits (by decide) (by decide) mem

/-- The digits of a number say the number. -/
theorem natOfDigits_toDigits (n : Nat) : natOfDigits (Nat.toDigits 10 n) = n := by
  have step : (fun (sofar : Nat) (d : Char) => sofar * 10 + asciiDigitValue d) =
      fun sofar d => 10 * sofar + (d.toNat - '0'.toNat) := by
    funext sofar d
    rw [Nat.mul_comm]
    rfl
  have read := Nat.ofDigitChars_ten_toDigits (n := n)
  rwa [Nat.ofDigitChars_eq_foldl, ← step] at read

/-- The digits of a number begin with no zero, unless it is zero. -/
theorem head_toDigits (positive : 0 < n) : ∀ c ∈ (Nat.toDigits 10 n).head?, c ≠ '0' := by
  induction n using Nat.strongRecOn with
  | _ n ih =>
    by_cases single : n < 10
    · have all : ∀ n : Fin 10, 0 < n.val → n.val.digitChar ≠ '0' := by decide
      rw [Nat.toDigits_of_lt_base single]
      rintro c mem
      cases Option.some_inj.mp mem
      exact all ⟨n, single⟩ positive
    · have above := ih (n / 10) (by omega) (by omega)
      rw [Nat.toDigits_of_base_le (by decide) (Nat.not_lt.mp single)]
      cases digits : Nat.toDigits 10 (n / 10) with
      | nil => exact absurd digits Nat.toDigits_ne_nil
      | cons d more =>
        rw [digits] at above
        exact above

/-- The digits of a number are a whole part. -/
theorem wholePart_toDigits (n : Nat) : wholePart (Nat.toDigits 10 n) = (Nat.toDigits 10 n, []) := by
  by_cases zero : n = 0
  · subst zero
    rfl
  · unfold wholePart
    split
    next rest same =>
      have first := head_toDigits (Nat.pos_of_ne_zero zero) '0' (by rw [same]; rfl)
      exact absurd rfl first
    next =>
      have all : ∀ c ∈ Nat.toDigits 10 n, isAsciiDigit c = true :=
        fun c mem => isAsciiDigit_of_mem_toDigits mem
      have taken := takeDigits_append all apart_nil
      rwa [List.append_nil] at taken

/-- The digits of a number are read as the number. -/
theorem number_toDigits (negative : Bool) (short : (Nat.toDigits 10 n).length ≤ digitLimit) :
    number negative (Nat.toDigits 10 n) =
      .ok (.num (.int (if negative then -(n : Int) else n)), []) := by
  have filled : ¬ (Nat.toDigits 10 n).isEmpty = true := by simp
  have fraction : fractionPart [] = (none, []) := rfl
  have exponent : exponentPart [] = (none, []) := rfl
  rw [number_eq (wholePart_toDigits n) fraction exponent, numberOf, if_neg filled,
    if_neg (Nat.not_lt.mpr short), natOfDigits_toDigits]
  rfl

/-- A whole number with few enough digits is read back. -/
theorem scalar_renderInt {n : Int} (short : (Nat.toDigits 10 n.natAbs).length ≤ digitLimit) :
    scalar (renderInt n) = .ok (.num (.int n), []) := by
  obtain ⟨d, more, digits⟩ : ∃ d more, Nat.toDigits 10 n.natAbs = d :: more :=
    List.exists_cons_of_ne_nil Nat.toDigits_ne_nil
  have first : d ∈ Nat.toDigits 10 n.natAbs := by
    rw [digits]
    exact List.mem_cons_self
  have digit := isAsciiDigit_of_mem_toDigits first
  unfold renderInt
  split
  next negative =>
    have read := number_toDigits true short
    rw [digits] at read ⊢
    rw [scalar_minus digit, read, if_pos rfl, ← Int.eq_neg_natAbs_of_nonpos (Int.le_of_lt negative)]
  next positive =>
    have read := number_toDigits false short
    rw [digits] at read ⊢
    rw [scalar_digit digit, read, if_neg (by decide), Int.natAbs_of_nonneg (Int.not_lt.mp positive)]

end Numbers
/-! ## Texts -/

section Strings

open Bytes

variable {ps tail rest : List CodePoint} {pieces : List Piece} {unit : Nat}

/-- The UTF-16 units of a character. -/
def unitsOf (c : Char) : List Nat :=
  if c.toNat < 0x10000 then [c.toNat]
  else [0xD800 + (c.toNat - 0x10000) / 0x400, 0xDC00 + (c.toNat - 0x10000) % 0x400]

/-- The code points are read from such parts: each as it is, or as the units of its escapes. -/
inductive ReadAs : List CodePoint → List Piece → Prop
  | nil : ReadAs [] []
  | point {ps : List CodePoint} {pieces : List Piece} (p : CodePoint) (rest : ReadAs ps pieces) :
      ReadAs (p :: ps) (.point p :: pieces)
  | units {ps : List CodePoint} {pieces : List Piece} (c : Char) (rest : ReadAs ps pieces) :
      ReadAs (.char c :: ps) ((unitsOf c).map .unit ++ pieces)
  | unit {ps : List CodePoint} {pieces : List Piece} (offset : Fin 0x800)
      (rest : ReadAs ps pieces) :
      ReadAs (.surrogate offset :: ps) (.unit (CodePoint.surrogate offset).code :: pieces)

/-- A unit stands for itself unless it is the first half of a surrogate pair. -/
theorem join_unit (single : ∀ low more, pieces = .unit low :: more →
    ¬ (isHighSurrogate unit && isLowSurrogate low) = true) :
    join (.unit unit :: pieces) = .ofCode unit :: join pieces := by
  cases pieces with
  | nil => rfl
  | cons piece more =>
    cases piece with
    | point p => rfl
    | unit low => rw [join, if_neg (single low more rfl)]

/-- The units of a character are read as the character. -/
theorem join_unitsOf (c : Char) (pieces : List Piece) :
    join ((unitsOf c).map .unit ++ pieces) = .char c :: join pieces := by
  have valid : c.toNat < 0xD800 ∨ 0xDFFF < c.toNat ∧ c.toNat < 0x110000 := c.valid
  have same : CodePoint.ofCode c.toNat = .char c := CodePoint.ofCode_code (.char c)
  unfold unitsOf
  split
  next =>
    rw [List.map_singleton, List.singleton_append, join_unit, same]
    intro low more _
    simp only [isHighSurrogate, Bool.and_eq_true, decide_eq_true_eq]
    omega
  next =>
    let above := c.toNat - 0x10000
    let high := 0xD800 + above / 0x400
    let low := 0xDC00 + above % 0x400
    have pair : (isHighSurrogate high && isLowSurrogate low) = true := by
      simp only [isHighSurrogate, isLowSurrogate, Bool.and_eq_true, decide_eq_true_eq]
      omega
    have sum : 0x10000 + (high - 0xD800) * 0x400 + (low - 0xDC00) = c.toNat := by omega
    show join (.unit high :: .unit low :: pieces) = _
    rw [join, if_pos pair, ofSurrogates, sum, Char.ofNat_toNat]

/-- Only a surrogate by itself is read as the second half of a surrogate pair that is in front. -/
theorem ReadAs.of_low (h : ReadAs ps pieces) {low : Nat} {more : List Piece}
    (first : pieces = .unit low :: more) (isLow : isLowSurrogate low = true) :
    ∃ p rest, ps = p :: rest ∧ low = p.code := by
  have bounds : 0xDC00 ≤ low ∧ low < 0xE000 := by simpa [isLowSurrogate] using isLow
  cases h with
  | nil | point => cases first
  | unit offset rest =>
    cases first
    exact ⟨_, _, rfl, rfl⟩
  | units c rest =>
    have valid : c.toNat < 0xD800 ∨ 0xDFFF < c.toNat ∧ c.toNat < 0x110000 := c.valid
    unfold unitsOf at first
    split at first
    · cases first
      exact ⟨_, _, rfl, rfl⟩
    · cases first
      omega

/-- Code points are read back where no two surrogates in a row are a pair. -/
theorem ReadAs.join_eq (h : ReadAs ps pieces)
    (settled : ps.IsChain fun p q => ¬ (isHighSurrogate p.code && isLowSurrogate q.code) = true) :
    join pieces = ps := by
  induction h with
  | nil => rfl
  | point p rest ih => rw [join, ih settled.tail]
  | units c rest ih => rw [join_unitsOf, ih settled.tail]
  | @unit ps pieces offset rest ih =>
    rw [join_unit, CodePoint.ofCode_code, ih settled.tail]
    intro low more first pair
    have isLow : isLowSurrogate low = true := (Bool.and_eq_true_iff.mp pair).2
    obtain ⟨p, others, rfl, rfl⟩ := rest.of_low first isLow
    exact (List.isChain_cons_cons.mp settled).1 pair

/-- A hexadecimal digit is read back. -/
theorem hexValue?_hexDigit {n : Nat} (digit : n < 16) : hexValue? (hexDigit n) = some n := by
  have all : ∀ n : Fin 16, hexValue? (hexDigit n) = some n.val := by decide
  exact all ⟨n, digit⟩

/-- Four hexadecimal digits are read back. -/
theorem hexUnit?_hexDigits (small : unit < 0x10000) : ∃ a b c d,
    hexDigits 4 unit = [a, b, c, d] ∧ hexUnit? a b c d = some unit := by
  refine ⟨_, _, _, _, rfl, ?_⟩
  have digit (n : Nat) : hexValue? (hexDigit (n % 16)) = some (n % 16) :=
    hexValue?_hexDigit (Nat.mod_lt n (by decide))
  have sum : ((unit / 16 / 16 / 16 % 16 * 16 + unit / 16 / 16 % 16) * 16 + unit / 16 % 16) * 16 +
      unit % 16 = unit := by omega
  simp [hexUnit?, digit, sum]

/-- The escape of a unit is read as the unit. -/
theorem stringPieces_unitEscape (small : unit < 0x10000) (tail : List CodePoint) :
    stringPieces ((unitEscape unit).map .char ++ tail) =
      prepend (.unit unit) (stringPieces tail) := by
  obtain ⟨a, b, c, d, digits, read⟩ := hexUnit?_hexDigits small
  rw [unitEscape, digits]
  exact stringPieces_unit read tail

/-- What stands for a character: a letter behind a backslash, the character itself, or the escapes
of its units. -/
theorem renderChar_cases (c : Char) :
    (∃ letter, escaped? letter = some c ∧ renderChar c = ['\\', letter] ∧ letter.toNat < 0x80) ∨
    (renderChar c = [c] ∧ 0x20 ≤ c.toNat ∧ c.toNat < 0x7F ∧ c ≠ '"' ∧ c ≠ '\\') ∨
    renderChar c = (unitsOf c).flatMap unitEscape := by
  by_cases lettered : c ∈ ['"', '\\', '\n', '\r', '\t', '\x0c', '\x08']
  · refine .inl ?_
    simp only [List.mem_cons, List.not_mem_nil, or_false] at lettered
    rcases lettered with rfl | rfl | rfl | rfl | rfl | rfl | rfl
    all_goals refine ⟨_, ?_, rfl, ?_⟩ <;> decide
  · refine .inr ?_
    simp only [List.mem_cons, List.not_mem_nil, or_false, not_or] at lettered
    have renders : renderChar c = if 0x20 ≤ c.toNat && c.toNat < 0x7F then [c]
        else (unitsOf c).flatMap unitEscape := by
      simp only [renderChar, lettered, beq_iff_eq, if_false, unitsOf]
      split
      · rfl
      · split <;> simp
    rw [renders]
    split
    next printed =>
      simp only [Bool.and_eq_true, decide_eq_true_eq] at printed
      exact .inl ⟨rfl, printed.1, printed.2, lettered.1, lettered.2.1⟩
    next => exact .inr rfl

/-- The units of a character have 16 bits. -/
theorem unitsOf_small (c : Char) : ∀ unit ∈ unitsOf c, unit < 0x10000 := by
  have valid : c.toNat < 0xD800 ∨ 0xDFFF < c.toNat ∧ c.toNat < 0x110000 := c.valid
  intro unit mem
  unfold unitsOf at mem
  split at mem
  · rw [List.mem_singleton.mp mem]
    assumption
  · simp only [List.mem_cons, List.not_mem_nil, or_false] at mem
    rcases mem with high | low <;> omega

/-- The escapes of units are read as the units. -/
theorem stringPieces_escapes {front : List Nat} (small : ∀ unit ∈ front, unit < 0x10000)
    (read : stringPieces tail = .ok (pieces, rest)) :
    stringPieces ((front.flatMap unitEscape).map .char ++ tail) =
      .ok (front.map .unit ++ pieces, rest) := by
  induction front with
  | nil => exact read
  | cons unit front ih =>
    obtain ⟨first, others⟩ := List.forall_mem_cons.mp small
    rw [List.flatMap_cons, List.map_append, List.append_assoc, stringPieces_unitEscape first,
      ih others]
    rfl

/-- What stands for a code point is read as it is, or as its units. -/
theorem stringPieces_renderPoint (p : CodePoint) (read : stringPieces tail = .ok (pieces, rest))
    (later : ReadAs ps pieces) :
    ∃ more, stringPieces ((renderPoint p).map .char ++ tail) = .ok (more, rest) ∧
      ReadAs (p :: ps) more := by
  -- A surrogate is written as the escape of its own unit, and read back as that unit.
  cases p with
  | surrogate offset =>
    have small : (CodePoint.surrogate offset).code < 0x10000 := by
      have most := offset.isLt
      simp only [CodePoint.code, CodePoint.firstSurrogate]
      omega
    exact ⟨_, by rw [renderPoint, stringPieces_unitEscape small, read]; rfl, .unit offset later⟩
  | char c =>
    rw [renderPoint]
    rcases renderChar_cases c with ⟨letter, known, renders, -⟩ |
      ⟨renders, least, -, quote, backslash⟩ | renders
    · refine ⟨.point (.char c) :: pieces, ?_, .point _ later⟩
      have step := stringPieces_escape known tail
      rw [read] at step
      rw [renders]
      exact step
    · refine ⟨.point (.char c) :: pieces, ?_, .point _ later⟩
      have step := stringPieces_plain least quote backslash tail
      rw [read] at step
      rw [renders]
      exact step
    · refine ⟨_, ?_, .units c later⟩
      rw [renders]
      exact stringPieces_escapes (unitsOf_small c) read

/-- What stands for code points is read as them, up to the closing quote. -/
theorem stringPieces_flatMap (ps tail : List CodePoint) :
    ∃ pieces, stringPieces ((ps.flatMap renderPoint).map .char ++ .char '"' :: tail) =
      .ok (pieces, tail) ∧ ReadAs ps pieces := by
  induction ps with
  | nil => exact ⟨[], rfl, .nil⟩
  | cons p ps ih =>
    obtain ⟨pieces, read, later⟩ := ih
    rw [List.flatMap_cons, List.map_append, List.append_assoc]
    exact stringPieces_renderPoint p read later

/-- A text is read back. -/
theorem string_renderPoints {t : Text} (settled : t.isSettled = true) (tail : List CodePoint) :
    string ((t.points.flatMap renderPoint).map .char ++ .char '"' :: tail) = .ok (t, tail) := by
  obtain ⟨pieces, read, parts⟩ := stringPieces_flatMap t.points tail
  rw [string, read]
  dsimp only
  rw [parts.join_eq (of_decide_eq_true settled)]

end Strings

/-! ## Objects -/

section Objects

open Fields

/-- A key that is new is set behind the others. -/
theorem put_of_new {fields : Fields} {key : Text} (new : key ∉ fields.map (·.1)) (v : Json) :
    fields.put key v = fields ++ [(key, v)] := by
  induction fields with
  | nil => rfl
  | cons field rest ih =>
    rw [List.map_cons, List.mem_cons, not_or] at new
    have other : ¬ (field.1 == key) = true := fun same => new.1 (beq_iff_eq.mp same).symm
    rw [put, if_neg other, ih new.2, List.cons_append]

/-- Members whose keys are new are set one behind the other. -/
theorem foldl_put {fields : Fields} {pairs : List (Text × Json)}
    (apart : ((fields ++ pairs).map (·.1)).Nodup) :
    pairs.foldl (fun fields pair => fields.put pair.1 pair.2) fields = fields ++ pairs := by
  induction pairs generalizing fields with
  | nil => rw [List.foldl_nil, List.append_nil]
  | cons pair pairs ih =>
    have new : pair.1 ∉ fields.map (·.1) := by
      rw [List.map_append, List.nodup_append] at apart
      exact fun mem => apart.2.2 _ mem _ (List.mem_map_of_mem List.mem_cons_self) rfl
    have split : fields ++ pair :: pairs = fields ++ [pair] ++ pairs := by
      rw [List.append_assoc, List.singleton_append]
    rw [split] at apart ⊢
    rw [List.foldl_cons, put_of_new new, ih apart]

/-- Without a repeated key the fields are the members, in their order. -/
theorem ofPairs_eq_self {pairs : List (Text × Json)} (apart : (pairs.map (·.1)).Nodup) :
    ofPairs pairs = pairs :=
  foldl_put apart

end Objects

/-! ## Values -/

section Values

/-- A text is read back from what stands for it. -/
theorem string_rendered {t : Text} (settled : t.isSettled = true) :
    string ((t.points.flatMap renderPoint).map .char ++ [.char '"']) = .ok (t, []) :=
  string_renderPoints settled []

/-- A key, a colon and a value are a member. -/
theorem writesMember {key : Text} {item : Json} (settled : key.isSettled = true)
    (writes : Writes ((render item).map .char) item) :
    WritesMember ((renderString key ++ ':' :: render item).map .char) (key, item) := by
  have text : (renderString key ++ ':' :: render item).map CodePoint.char =
      .char '"' :: (((key.points.flatMap renderPoint).map .char ++ [.char '"']) ++
        ([] ++ .char ':' :: ([] ++ (render item).map .char))) := by
    simp [renderString]
  rw [text]
  exact .mk (string_rendered settled) isGap_nil isGap_nil writes

mutual

/-- A plain value is written by the grammar. -/
theorem writes_render (v : Json) (plain : v.isPlain = true) :
    Writes ((render v).map .char) v := by
  match v with
  | .null | .bool true | .bool false => exact .scalar rfl
  | .num (.int n) => exact .scalar (scalar_renderInt (of_decide_eq_true plain))
  | .num (.real x) => cases plain
  | .str t =>
    have written := Writes.str (string_rendered (t := t) plain)
    simpa [render, renderString] using written
  | .arr [] => exact .noItems isGap_nil
  | .arr (item :: rest) =>
    have inner := writesItems_renderItems (item :: rest) plain (List.cons_ne_nil _ _)
    have written := Writes.arr isGap_nil inner
    simpa [render] using written
  | .obj [] => exact .noMembers isGap_nil
  | .obj (field :: rest) =>
    rw [isPlain, Bool.and_eq_true, decide_eq_true_eq] at plain
    have inner := writesMembers_renderFields (field :: rest) plain.2 (List.cons_ne_nil _ _)
    have written := Writes.obj isGap_nil inner
    rw [ofPairs_eq_self plain.1] at written
    simpa [render] using written

/-- Plain items are written by the grammar. -/
theorem writesItems_renderItems (items : List Json) (plain : arePlain items = true)
    (filled : items ≠ []) :
    WritesItems ((renderItems items).map .char ++ [.char ']']) items := by
  match items with
  | [] => exact absurd rfl filled
  | [item] =>
    rw [arePlain, Bool.and_eq_true] at plain
    exact .last (writes_render item plain.1) isGap_nil
  | item :: next :: rest =>
    rw [arePlain, Bool.and_eq_true] at plain
    have others := writesItems_renderItems (next :: rest) plain.2 (List.cons_ne_nil _ _)
    have text : (renderItems (item :: next :: rest)).map CodePoint.char ++ [.char ']'] =
        (render item).map .char ++
          ([] ++ .char ',' :: ([] ++ ((renderItems (next :: rest)).map .char ++ [.char ']']))) := by
      simp [renderItems]
    rw [text]
    exact .more (writes_render item plain.1) isGap_nil isGap_nil others

/-- Plain fields are written by the grammar. -/
theorem writesMembers_renderFields (fields : List (Text × Json))
    (plain : arePlainFields fields = true) (filled : fields ≠ []) :
    WritesMembers ((renderFields fields).map .char ++ [.char '}']) fields := by
  match fields with
  | [] => exact absurd rfl filled
  | [(key, item)] =>
    rw [arePlainFields, Bool.and_eq_true, Bool.and_eq_true] at plain
    have member := writesMember plain.1.1 (writes_render item plain.1.2)
    have text : renderFields [(key, item)] = renderString key ++ ':' :: render item := rfl
    rw [text]
    exact .last member isGap_nil
  | (key, item) :: next :: rest =>
    rw [arePlainFields, Bool.and_eq_true, Bool.and_eq_true] at plain
    have member := writesMember plain.1.1 (writes_render item plain.1.2)
    have others := writesMembers_renderFields (next :: rest) plain.2 (List.cons_ne_nil _ _)
    have text : (renderFields ((key, item) :: next :: rest)).map CodePoint.char ++ [.char '}'] =
        (renderString key ++ ':' :: render item).map .char ++
          ([] ++ .char ',' ::
            ([] ++ ((renderFields (next :: rest)).map .char ++ [.char '}']))) := by
      simp [renderFields]
    rw [text]
    exact .more member isGap_nil isGap_nil others

end

/-- **What is encoded is what is decoded**, keys in their order. -/
theorem ofText_compact {v : Json} (plain : v.isPlain = true) : ofText v.compact = .ok v := by
  have written : WritesText ((render v).map .char) v :=
    ⟨[], _, [], (List.append_nil _).symm, isGap_nil, isGap_nil, writes_render v plain⟩
  rw [ofText, compact, Text.coe_points, String.toList_ofList]
  exact ofPoints_eq_ok_iff.mpr written

end Values
/-! ## Only ASCII is written -/

section Ascii

/-- The characters are ASCII. -/
def IsAscii (cs : List Char) : Prop := ∀ c ∈ cs, c.toNat < 0x80

variable {cs more : List Char}

theorem IsAscii.append (h : IsAscii cs) (h' : IsAscii more) : IsAscii (cs ++ more) :=
  fun c mem => (List.mem_append.mp mem).elim (h c) (h' c)

theorem IsAscii.cons {c : Char} (first : c.toNat < 0x80) (h : IsAscii cs) : IsAscii (c :: cs) :=
  List.forall_mem_cons.mpr ⟨first, h⟩

theorem isAscii_of_all (all : cs.all (·.toNat < 0x80) = true) : IsAscii cs :=
  fun c mem => of_decide_eq_true (List.all_eq_true.mp all c mem)

theorem isAscii_hexDigits (width n : Nat) : IsAscii (hexDigits width n) := by
  have digit : ∀ n : Fin 16, (hexDigit n.val).toNat < 0x80 := by decide
  induction width generalizing n with
  | zero => exact nofun
  | succ width ih =>
    refine (ih (n / 16)).append (List.forall_mem_singleton.mpr ?_)
    exact digit ⟨n % 16, Nat.mod_lt n (by decide)⟩

theorem isAscii_unitEscape (unit : Nat) : IsAscii (unitEscape unit) :=
  .cons (by decide) (.cons (by decide) (isAscii_hexDigits 4 unit))

/-- What stands for a character is ASCII: what is not gets escapes. -/
theorem isAscii_renderChar (c : Char) : IsAscii (renderChar c) := by
  rcases renderChar_cases c with ⟨letter, -, renders, ascii⟩ | ⟨renders, -, most, -⟩ | renders
  · rw [renders]
    exact .cons (by decide) (.cons ascii nofun)
  · rw [renders]
    exact .cons (by omega) nofun
  · rw [renders]
    intro c mem
    obtain ⟨unit, -, mem⟩ := List.mem_flatMap.mp mem
    exact isAscii_unitEscape unit c mem

theorem isAscii_renderPoint : ∀ p : CodePoint, IsAscii (renderPoint p)
  | .char c => isAscii_renderChar c
  | .surrogate _ => isAscii_unitEscape _

theorem isAscii_renderString (t : Text) : IsAscii (renderString t) := by
  refine .cons (by decide) (.append (fun c mem => ?_) (.cons (by decide) nofun))
  obtain ⟨inner, -, mem⟩ := List.mem_flatMap.mp mem
  exact isAscii_renderPoint inner c mem

theorem isAscii_toDigits (n : Nat) : IsAscii (Nat.toDigits 10 n) :=
  fun _ mem => toNat_lt_of_isAsciiDigit (isAsciiDigit_of_mem_toDigits mem)

mutual

/-- What stands for a plain value is ASCII. -/
theorem isAscii_render (v : Json) (plain : v.isPlain = true) : IsAscii (render v) := by
  match v with
  | .null | .bool true | .bool false =>
    exact isAscii_of_all rfl
  | .num (.int n) =>
    show IsAscii (renderInt n)
    unfold renderInt
    split
    · exact .cons (by decide) (isAscii_toDigits _)
    · exact isAscii_toDigits _
  | .num (.real x) => cases plain
  | .str t => exact isAscii_renderString t
  | .arr items =>
    exact .cons (by decide) ((isAscii_renderItems items plain).append (.cons (by decide) nofun))
  | .obj fields =>
    rw [isPlain, Bool.and_eq_true] at plain
    exact .cons (by decide)
      ((isAscii_renderFields fields plain.2).append (.cons (by decide) nofun))

theorem isAscii_renderItems (items : List Json) (plain : arePlain items = true) :
    IsAscii (renderItems items) := by
  match items with
  | [] => exact nofun
  | [item] =>
    rw [arePlain, Bool.and_eq_true] at plain
    exact isAscii_render item plain.1
  | item :: next :: rest =>
    rw [arePlain, Bool.and_eq_true] at plain
    exact (isAscii_render item plain.1).append
      (.cons (by decide) (isAscii_renderItems (next :: rest) plain.2))

theorem isAscii_renderFields (fields : List (Text × Json))
    (plain : arePlainFields fields = true) : IsAscii (renderFields fields) := by
  match fields with
  | [] => exact nofun
  | [(key, item)] =>
    rw [arePlainFields, Bool.and_eq_true, Bool.and_eq_true] at plain
    exact (isAscii_renderString key).append (.cons (by decide) (isAscii_render item plain.1.2))
  | (key, item) :: next :: rest =>
    rw [arePlainFields, Bool.and_eq_true, Bool.and_eq_true] at plain
    have member : IsAscii (renderString key ++ ':' :: render item) :=
      (isAscii_renderString key).append (.cons (by decide) (isAscii_render item plain.1.2))
    exact member.append (.cons (by decide) (isAscii_renderFields (next :: rest) plain.2))

end

end Ascii
end Json
end GatewayClient
