import GatewayClient.Text.Mention
import Mathlib.Data.List.Forall2

/-!
# What a text mentions

A phrase is found wherever it stands in a text (`Text.occursIn_iff`). Apart from the letters i, k
and s, a letter of a phrase stands for its two ASCII forms and for no other character
(`Text.foldsTo_iff`), so a phrase without these letters is mentioned exactly where it stands in
ASCII letters of any case (`Text.mentions_iff`).
-/

set_option autoImplicit false

namespace GatewayClient.Text

/-- The text starts with characters that fold to the phrase, one by one. -/
theorem opensWith_iff {phrase : List Char} {text : List CodePoint} :
    opensWith phrase text = true ↔ ∃ (said : List Char) (after : List CodePoint),
      text = said.map CodePoint.char ++ after ∧
      List.Forall₂ (fun letter c => foldsTo letter c = true) phrase said := by
  induction phrase generalizing text with
  | nil => exact ⟨fun _ => ⟨[], text, rfl, .nil⟩, fun _ => by rw [opensWith]⟩
  | cons letter phrase ih =>
    cases text with
    | nil =>
      refine ⟨nofun, ?_⟩
      rintro ⟨said, after, split, folds⟩
      cases folds
      cases split
    | cons p text =>
      rw [opensWith, Bool.and_eq_true, ih]
      constructor
      · rintro ⟨fold, said, after, rfl, folds⟩
        cases p with
        | char c => exact ⟨c :: said, after, rfl, .cons fold folds⟩
        | surrogate offset => cases fold
      · rintro ⟨said, after, split, folds⟩
        cases folds with
        | cons fold folds =>
          obtain ⟨rfl, rfl⟩ := List.cons.inj split
          exact ⟨fold, _, after, rfl, folds⟩

/-- Something in the text folds to the phrase. -/
theorem occursIn_iff {phrase : List Char} {text : List CodePoint} :
    occursIn phrase text = true ↔
      ∃ (before : List CodePoint) (said : List Char) (after : List CodePoint),
        text = before ++ said.map CodePoint.char ++ after ∧
          List.Forall₂ (fun letter c => foldsTo letter c = true) phrase said := by
  induction text with
  | nil =>
    rw [occursIn, opensWith_iff]
    constructor
    · rintro ⟨said, after, split, folds⟩
      exact ⟨[], said, after, split, folds⟩
    · rintro ⟨before, said, after, split, folds⟩
      obtain ⟨opening, rfl⟩ := List.append_eq_nil_iff.mp split.symm
      obtain ⟨-, empty⟩ := List.append_eq_nil_iff.mp opening
      obtain rfl := List.map_eq_nil_iff.mp empty
      exact ⟨[], [], rfl, folds⟩
  | cons p text ih =>
    rw [occursIn, Bool.or_eq_true, opensWith_iff, ih]
    constructor
    · rintro (⟨said, after, split, folds⟩ | ⟨before, said, after, rfl, folds⟩)
      · exact ⟨[], said, after, split, folds⟩
      · exact ⟨p :: before, said, after, rfl, folds⟩
    · rintro ⟨before, said, after, split, folds⟩
      cases before with
      | nil => exact .inl ⟨said, after, split, folds⟩
      | cons first before =>
        obtain ⟨rfl, rfl⟩ := List.cons.inj split
        exact .inr ⟨before, said, after, rfl, folds⟩

/-- The small letters of a run are beyond ASCII. The first run is the one of ASCII, and one more
has a single capital, the Kelvin sign, whose small letter is k. -/
theorem small_of_mem_caseRuns : ∀ run ∈ caseRuns,
    run.last < 0x80 ∨ (run.first = run.last ∧ run.small = 'k'.toNat) ∨ 0x80 ≤ run.small := by
  decide +kernel

/-- Beyond ASCII there are no capitals of ASCII. -/
theorem toLower_of_wide {c : Char} (wide : 0x80 ≤ c.toNat) : c.toLower = c := by
  unfold Char.toLower
  refine dif_neg fun capital => ?_
  have most : c.toNat ≤ 'Z'.toNat := UInt32.le_iff_toNat_le.mp capital.2
  have last : 'Z'.toNat = 0x5A := rfl
  omega

/-- A capital beyond ASCII has its small letter there, or it is the Kelvin sign. -/
theorem lowerChar_of_wide {c : Char} (wide : 0x80 ≤ c.toNat) :
    (lowerChar c).toNat = 0 ∨ lowerChar c = 'k' ∨ 0x80 ≤ (lowerChar c).toNat := by
  unfold lowerChar
  rw [if_neg (Nat.not_lt.mpr wide)]
  split
  next run found =>
    have inside := List.find?_some found
    simp only [Bool.and_eq_true, decide_eq_true_eq] at inside
    obtain ⟨⟨least, most⟩, -⟩ := inside
    rcases small_of_mem_caseRuns run (List.mem_of_find?_eq_some found) with
      ascii | ⟨single, kelvin⟩ | small
    · omega
    · have capital : c.toNat - run.first = 0 := by omega
      rw [capital, kelvin]
      exact .inr (.inl rfl)
    · -- a number that is no code point gives the first character
      unfold Char.ofNat
      by_cases valid : (run.small + (c.toNat - run.first)).isValidChar
      · rw [dif_pos valid]
        exact .inr (.inr (Nat.le_add_right_of_le small))
      · rw [dif_neg valid]
        exact .inl rfl
  next => exact .inr (.inr wide)

/-- A letter of ASCII that stands for its two cases only. -/
def isPlainLetter (letter : Char) : Bool :=
  0 < letter.toNat && letter.toNat < 0x80 && !(['i', 'k', 's'].contains letter)

/-- What folds to such a letter is a case of it. -/
theorem foldsTo_iff {letter : Char} (plain : isPlainLetter letter = true) (c : Char) :
    foldsTo letter c = true ↔ c.toLower = letter := by
  simp only [isPlainLetter, Bool.and_eq_true, decide_eq_true_eq, Bool.not_eq_true',
    List.contains_eq_mem, decide_eq_false_iff_not, List.mem_cons, List.not_mem_nil, or_false,
    not_or] at plain
  obtain ⟨⟨least, most⟩, noI, noK, noS⟩ := plain
  have own : foldsTo letter c = (lowerChar c == letter) := by
    simp [foldsTo, beq_false_of_ne noI, beq_false_of_ne noS]
  rw [own, beq_iff_eq]
  by_cases narrow : c.toNat < 0x80
  · rw [lowerChar, if_pos narrow]
  · have wide := Nat.not_lt.mp narrow
    rw [toLower_of_wide wide]
    constructor
    · rintro rfl
      rcases lowerChar_of_wide wide with none | kelvin | small
      · omega
      · exact absurd kelvin noK
      · omega
    · rintro rfl
      omega

/-- Characters fold to such letters, one by one, exactly if the letters are their small forms. -/
theorem forall₂_foldsTo_iff {letters : List Char} (plain : letters.all isPlainLetter = true)
    (said : List Char) :
    List.Forall₂ (fun letter c => foldsTo letter c = true) letters said ↔
      said.map Char.toLower = letters := by
  induction letters generalizing said with
  | nil => rw [List.forall₂_nil_left_iff, List.map_eq_nil_iff]
  | cons letter letters ih =>
    rw [List.all_cons, Bool.and_eq_true] at plain
    cases said with
    | nil => exact ⟨nofun, nofun⟩
    | cons c said =>
      rw [List.forall₂_cons, ih plain.2, foldsTo_iff plain.1, List.map_cons, List.cons.injEq]

/-- A phrase of such letters is mentioned exactly where it stands in the text, in ASCII letters of
any case. -/
theorem mentions_iff {t : Text} {phrase : String}
    (plain : phrase.toList.all isPlainLetter = true) :
    mentions t phrase = true ↔
      ∃ (before : List CodePoint) (said : List Char) (after : List CodePoint),
        t.points = before ++ said.map CodePoint.char ++ after ∧
          said.map Char.toLower = phrase.toList := by
  rw [mentions, occursIn_iff]
  simp only [forall₂_foldsTo_iff plain]

end GatewayClient.Text
