/-!
# Texts

What a node writes is a sequence of code points. Nearly all of them are characters, but the JSON
that a node answers with can also name a surrogate alone, and a reader keeps it. Such a text can be
compared, shown and stored like any other. It has no UTF-8 bytes, though, so it can be no part of a
URL: `Text.toString?` is the test.

Whatever a caller or this library writes itself is a `String`, and is a text without surrogates.
-/

set_option autoImplicit false

namespace GatewayClient

/-- A code point: a character, or the surrogate that stands so far behind the first one. -/
inductive CodePoint where
  | char (c : Char)
  | surrogate (offset : Fin 0x800)
deriving DecidableEq, Repr, Inhabited

namespace CodePoint

/-- The first surrogate. -/
def firstSurrogate : Nat := 0xD800

/-- The number of a code point. -/
def code : CodePoint → Nat
  | char c => c.toNat
  | surrogate offset => firstSurrogate + offset

/-- The code point of a number; a number beyond them all stands for none, and gives NUL. -/
def ofCode (code : Nat) : CodePoint :=
  if h : firstSurrogate ≤ code ∧ code < firstSurrogate + 0x800 then
    surrogate ⟨code - firstSurrogate, by omega⟩
  else char (Char.ofNat code)

/-- A code point is known by its number: the number of a character is the one of no surrogate. -/
theorem ofCode_code (p : CodePoint) : ofCode p.code = p := by
  cases p with
  | char c =>
    have valid : c.toNat < 0xD800 ∨ 0xDFFF < c.toNat ∧ c.toNat < 0x110000 := c.valid
    have scalar : ¬ (firstSurrogate ≤ c.toNat ∧ c.toNat < firstSurrogate + 0x800) := by
      rw [firstSurrogate]
      omega
    rw [code, ofCode, dif_neg scalar, Char.ofNat_toNat]
  | surrogate offset =>
    have inside : firstSurrogate ≤ firstSurrogate + offset ∧
        firstSurrogate + offset < firstSurrogate + 0x800 := by omega
    rw [code, ofCode, dif_pos inside]
    simp

/-- The character, unless the code point is a surrogate. -/
def char? : CodePoint → Option Char
  | char c => some c
  | surrogate _ => none

end CodePoint

/-- A text: its code points. -/
@[ext] structure Text where
  points : List CodePoint
deriving DecidableEq, Repr, Inhabited

namespace Text

/-- A string as a text. -/
@[coe] def ofString (s : String) : Text := ⟨s.toList.map .char⟩

instance : Coe String Text := ⟨ofString⟩

/-- One text behind the other. -/
def append (a b : Text) : Text := ⟨a.points ++ b.points⟩

instance : Append Text := ⟨append⟩

/-- The text has no code points. -/
def isEmpty (t : Text) : Bool := t.points.isEmpty

/-- The string that the text is, unless it has a surrogate. -/
def toString? (t : Text) : Option String := (t.points.mapM CodePoint.char?).map String.ofList

/-- Texts with a separator between them. -/
def intercalate (separator : Text) (texts : List Text) : Text :=
  ⟨separator.points.intercalate (texts.map points)⟩

/-- The first text comes before the second one, by the numbers of their code points. -/
def isBelow (a b : Text) : Bool := a.points.map CodePoint.code < b.points.map CodePoint.code

variable {s : String} {t : Text}

@[simp] theorem append_points (a b : Text) : (a ++ b).points = a.points ++ b.points := rfl

@[simp] theorem isEmpty_coe (s : String) : (s : Text).isEmpty = s.isEmpty := by
  rw [Bool.eq_iff_iff, isEmpty, ofString, List.isEmpty_iff, List.map_eq_nil_iff,
    String.toList_eq_nil_iff, String.isEmpty_iff]

theorem mapM_char?_map (cs : List Char) :
    (cs.map CodePoint.char).mapM CodePoint.char? = some cs := by
  induction cs with
  | nil => rfl
  | cons c cs ih => simp [CodePoint.char?, ih]

/-- A string is the string of its text. -/
@[simp] theorem toString?_coe (s : String) : (s : Text).toString? = some s := by
  rw [toString?, ofString, mapM_char?_map, Option.map_some, String.ofList_toList]

theorem isSome_toString?_coe (s : String) : (s : Text).toString?.isSome = true := by
  rw [toString?_coe, Option.isSome_some]

/-- Strings are told apart by their texts. -/
@[simp] theorem coe_inj {s s' : String} : (s : Text) = s' ↔ s = s' := by
  refine ⟨fun same => ?_, fun same => by rw [same]⟩
  have read := congrArg toString? same
  rwa [toString?_coe, toString?_coe, Option.some_inj] at read

/-- Code points that are all characters are those characters. -/
theorem mapM_char?_eq_some {points : List CodePoint} {cs : List Char}
    (h : points.mapM CodePoint.char? = some cs) : points = cs.map .char := by
  induction points generalizing cs with
  | nil =>
    cases h
    rfl
  | cons point points ih =>
    cases point with
    | char c =>
      cases rest : points.mapM CodePoint.char? with
      | none => simp [CodePoint.char?, rest] at h
      | some cs' =>
        obtain rfl : c :: cs' = cs := by simpa [CodePoint.char?, rest] using h
        rw [List.map_cons, ih rest]
    | surrogate offset => simp [CodePoint.char?] at h

/-- A text is a string exactly if that is its string. -/
theorem toString?_eq_some_iff : t.toString? = some s ↔ t = s := by
  constructor
  · intro h
    obtain ⟨cs, chars, rfl⟩ := Option.map_eq_some_iff.mp h
    have points := mapM_char?_eq_some chars
    rw [ofString, String.toList_ofList, ← points]
  · rintro rfl
    exact toString?_coe s

@[simp] theorem coe_points (s : String) : (s : Text).points = s.toList.map .char := rfl

theorem isEmpty_iff : t.isEmpty = true ↔ t = "" := by
  rw [isEmpty, List.isEmpty_iff, Text.ext_iff]
  rfl

/-- A string with characters is a text with code points. -/
theorem filled_coe (filled : s ≠ "") : (s : Text) ≠ "" := mt coe_inj.mp filled

theorem coe_append (s s' : String) : ((s ++ s' : String) : Text) = (s : Text) ++ (s' : Text) :=
  Text.ext (by simp)

end Text
end GatewayClient
