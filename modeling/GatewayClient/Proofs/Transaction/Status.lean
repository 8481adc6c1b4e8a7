import GatewayClient.Proofs.Text.LowerCase
import GatewayClient.Transaction.Status

/-!
# Which listed words are read

A node's word is looked up in its normal form. A table keeps the words that it is made with as they
are, and those that it is extended by in lower case, so a lookup finds only some of them
(`mem_words_extended`, `reads_iff`).

**The law** (`listed_law`): a word that was given for a state means that state, or one of a list
that is asked before, exactly if some word of its normal form was given for the state in a form that
can be looked up: in normal form when the table was made, without blanks around it when the table
was extended. A word whose normal form was never given means that the transaction is pending. The
table does not read every word that it was given (`capital_unread`).
-/

set_option autoImplicit false

namespace GatewayClient

/-- The place of a state in the order in which the lists are asked. -/
def TransactionStatus.rank : TransactionStatus → Nat
  | .success => 0
  | .invalid => 1
  | .failed => 2
  | .pending => 3

namespace StatusTable

open TransactionStatus (rank)

/-- The words for a state. -/
def words (t : StatusTable) : TransactionStatus → List String
  | .success => t.success
  | .invalid => t.invalid
  | .failed => t.failed
  | .pending => t.pending

/-- A table that is extended any number of times. -/
def extended (base : StatusTable) (more : List StatusTable) : StatusTable := more.foldl extend base

/-! ## Normal forms -/

section Normal

/-- A normal form is its own. -/
theorem normalForm_normalForm (word : String) : normalForm (normalForm word) = normalForm word := by
  rw [normalForm, normalForm, Text.strip_lower, Text.strip_strip, Text.lower_lower]

theorem strip_normalForm (word : String) : Text.strip (normalForm word) = normalForm word := by
  rw [normalForm, Text.strip_lower, Text.strip_strip]

end Normal

/-! ## Tables that are extended -/

section Extending

variable {t : StatusTable} {base : StatusTable} {more : List StatusTable}
  {status : TransactionStatus} {word : String}

/-- The words of a merged list are those of its first part, and the others in lower case. -/
theorem mem_merge {words more : List String} :
    word ∈ merge words more ↔ word ∈ words ∨ ∃ given ∈ more, Text.lower given = word := by
  unfold merge
  induction more generalizing words with
  | nil => simp
  | cons first more ih =>
    rw [List.map_cons, List.foldl_cons, ih]
    have added : word ∈ (if words.contains (Text.lower first) then words
        else words ++ [Text.lower first]) ↔ word ∈ words ∨ Text.lower first = word := by
      split
      next known =>
        rw [List.contains_iff_mem] at known
        exact ⟨.inl, fun h => h.elim id fun same => same ▸ known⟩
      next => simp [eq_comm]
    rw [added, or_assoc]
    simp

/-- A table that is extended has its words, and those of the other one in lower case. -/
theorem mem_words_extend {other : StatusTable} :
    word ∈ (t.extend other).words status ↔
      word ∈ t.words status ∨ ∃ given ∈ other.words status, Text.lower given = word := by
  cases status <;> exact mem_merge

/-- A table holds the words that it was made with, and those that it was extended by in lower
case. -/
theorem mem_words_extended :
    word ∈ (extended base more).words status ↔ word ∈ base.words status ∨
      ∃ t ∈ more, ∃ given ∈ t.words status, Text.lower given = word := by
  unfold extended
  induction more generalizing base with
  | nil => simp
  | cons t more ih => simp [ih, mem_words_extend, or_assoc]

end Extending

/-! ## What a table reads -/

section Reading

variable (base : StatusTable) (more : List StatusTable)

/-- The words that were given for a state, when the table was made and when it was extended. -/
def given (status : TransactionStatus) : List String :=
  base.words status ++ more.flatMap (·.words status)

/-- A word with the same normal form was given for the state. -/
def Lists (status : TransactionStatus) (word : String) : Prop :=
  ∃ other ∈ given base more status, normalForm other = normalForm word

instance (status : TransactionStatus) (word : String) : Decidable (Lists base more status word) :=
  inferInstanceAs (Decidable (∃ other ∈ _, _))

/-- A word with the same normal form was given for the state in a form that can be looked up: in
normal form to the table, or without blanks around it to an extension. -/
def Reads (status : TransactionStatus) (word : String) : Prop :=
  ∃ other, normalForm other = normalForm word ∧
    (other ∈ base.words status ∧ normalForm other = other ∨
      ∃ t ∈ more, other ∈ t.words status ∧ Text.strip other = other)

variable {base more} {status : TransactionStatus} {word : String}

/-- A word that is read for a state was given for it. -/
theorem Reads.lists (h : Reads base more status word) : Lists base more status word := by
  obtain ⟨other, same, here | ⟨t, mem, here⟩⟩ := h
  · exact ⟨other, List.mem_append_left _ here.1, same⟩
  · exact ⟨other, List.mem_append_right _ (List.mem_flatMap.mpr ⟨t, mem, here.1⟩), same⟩

/-- A word is read exactly if its normal form is in the list. -/
theorem reads_iff :
    Reads base more status word ↔ normalForm word ∈ (extended base more).words status := by
  rw [mem_words_extended]
  constructor
  · rintro ⟨other, same, ⟨here, normal⟩ | ⟨t, mem, here, stripped⟩⟩
    · left
      rwa [← same, normal]
    · right
      refine ⟨t, mem, other, here, ?_⟩
      rw [← same, normalForm, stripped]
  · rintro (here | ⟨t, mem, other, here, lowered⟩)
    · have normal := normalForm_normalForm word
      exact ⟨normalForm word, normal, .inl ⟨here, normal⟩⟩
    · -- what is kept is in normal form, so it was given without blanks around it
      have same : normalForm other = Text.lower other := by
        rw [normalForm, ← Text.strip_lower, lowered, strip_normalForm]
      exact ⟨other, same.trans lowered, .inr ⟨t, mem, here, Text.lower_strip_eq_iff.mp same⟩⟩

/-- A word means the first state that has its normal form in its list, and that the transaction is
pending if none has. -/
theorem classify_spec (t : StatusTable) (word : String) :
    (t.classify word = .pending ∨ normalForm word ∈ t.words (t.classify word)) ∧
      ∀ status, status.rank < (t.classify word).rank → normalForm word ∉ t.words status := by
  have key : (word : Text).toString?.map normalForm = some (normalForm word) := by
    rw [Text.toString?_coe, Option.map_some]
  unfold classify
  rw [key]
  simp only [List.contains_iff_mem]
  split
  next success => exact ⟨.inr success, nofun⟩
  next no_success =>
    split
    next invalid =>
      refine ⟨.inr invalid, fun status before => ?_⟩
      cases status with
      | success => exact no_success
      | invalid | failed | pending => simp [rank] at before
    next no_invalid =>
      split
      next failed =>
        refine ⟨.inr failed, fun status before => ?_⟩
        cases status with
        | success => exact no_success
        | invalid => exact no_invalid
        | failed | pending => simp [rank] at before
      next no_failed =>
        refine ⟨.inl rfl, fun status before => ?_⟩
        cases status with
        | success => exact no_success
        | invalid => exact no_invalid
        | failed => exact no_failed
        | pending => simp [rank] at before

/-- Pending is asked for last. -/
theorem rank_le_pending (status : TransactionStatus) : status.rank ≤ rank .pending := by
  cases status <;> decide

theorem eq_of_rank_eq {status other : TransactionStatus} (same : status.rank = other.rank) :
    status = other := by
  cases status <;> cases other <;> first | rfl | cases same

/-- A word that is read for a state means that state, unless it is read for one that is asked
before. -/
theorem classify_of_reads (reads : Reads base more status word) :
    (extended base more).classify word = status ∨
      ∃ other, other.rank < status.rank ∧ Reads base more other word := by
  obtain ⟨found, before⟩ := classify_spec (extended base more) word
  have first : ((extended base more).classify word).rank ≤ status.rank :=
    Nat.le_of_not_lt fun late => before status late (reads_iff.mp reads)
  rcases Nat.lt_or_eq_of_le first with earlier | same
  · refine .inr ⟨_, earlier, reads_iff.mpr (found.resolve_left fun pending => ?_)⟩
    rw [pending] at earlier
    exact absurd earlier (Nat.not_lt.mpr (rank_le_pending status))
  · exact .inl (eq_of_rank_eq same)

/-- A word that means a final state is read for it. -/
theorem reads_classify (final : (extended base more).classify word ≠ .pending) :
    Reads base more ((extended base more).classify word) word :=
  reads_iff.mpr ((classify_spec _ word).1.resolve_left final)

/-- **Which of the words that a table was given it reads.** A word means a state, or its normal form
was given for a state that is asked before, exactly if the state is pending, or the word is read for
the state, or the latter holds. A word whose normal form was not given for any state means that the
transaction is pending, and so does one with a surrogate, which has none. -/
theorem listed_law (base : StatusTable) (more : List StatusTable) :
    let t := extended base more
    (∀ status, ∀ word ∈ given base more status,
      ((t.classify (word : Text) = status ∨
          ∃ other, other.rank < status.rank ∧ Lists base more other word) ↔
        (status = .pending ∨ Reads base more status word ∨
          ∃ other, other.rank < status.rank ∧ Lists base more other word))) ∧
    ∀ word : Text, (∀ s, word.toString? = some s → ∀ status, ¬ Lists base more status s) →
      t.classify word = .pending := by
  refine ⟨fun status word _ => ⟨?_, ?_⟩, fun word unlisted => ?_⟩
  · rintro (rfl | outranked)
    · by_cases pending : (extended base more).classify word = .pending
      · exact .inl pending
      · exact .inr (.inl (reads_classify pending))
    · exact .inr (.inr outranked)
  · rintro (rfl | reads | outranked)
    · by_cases pending : (extended base more).classify word = .pending
      · exact .inl pending
      · refine .inr ⟨_, ?_, (reads_classify pending).lists⟩
        exact Nat.lt_of_le_of_ne (rank_le_pending _) fun same => pending (eq_of_rank_eq same)
    · refine (classify_of_reads reads).imp_right fun ⟨other, before, read⟩ => ?_
      exact ⟨other, before, read.lists⟩
    · exact .inr outranked
  · cases known : word.toString? with
    | none =>
      unfold classify
      rw [known]
      rfl
    | some s =>
      obtain rfl := Text.toString?_eq_some_iff.mp known
      refine Decidable.byContradiction fun final => ?_
      exact unlisted s known _ (reads_classify final).lists

/-- A word with capitals and a final sigma is given to an extension. It is read whatever its case,
with blanks around it too, and a word that was never given is not. -/
theorem listed_law_sigma :
    let base : StatusTable := {}
    let more : List StatusTable := [{ empty with success := ["ΤΈΛΟΣ"] }]
    let t := extended base more
    "ΤΈΛΟΣ" ∈ given base more .success ∧ t.classify "\tτέλοΣ " = .success ∧
      (t.classify "ΤΈΛΟΣ" = .success ∨
        ∃ other, other.rank < rank .success ∧ Lists base more other "ΤΈΛΟΣ") ∧
      (∀ s, ("limbo" : Text).toString? = some s → ∀ status, ¬ Lists base more status s) ∧
      t.classify "limbo" = .pending := by
  intro base more t
  have listed : "ΤΈΛΟΣ" ∈ given base more .success := by decide
  have reads : Reads base more .success "ΤΈΛΟΣ" := reads_iff.mpr (by decide +kernel)
  have unlisted : ∀ s, ("limbo" : Text).toString? = some s →
      ∀ status, ¬ Lists base more status s := by
    intro s known status
    rw [Text.toString?_coe, Option.some_inj] at known
    subst known
    cases status <;> decide +kernel
  obtain ⟨read, unread⟩ := listed_law base more
  exact ⟨listed, by decide +kernel, (read .success "ΤΈΛΟΣ" listed).mpr (.inr (.inl reads)),
    unlisted, unread "limbo" unlisted⟩

/-- A table is made with a word that has a capital. The word is listed for success, which no list is
asked before, and still means that the transaction is pending. -/
theorem capital_unread :
    let base : StatusTable := { success := ["Finalized"] }
    "Finalized" ∈ given base [] .success ∧
      (extended base []).classify "Finalized" = .pending ∧
      ¬ ∃ other, other.rank < rank .success ∧ Lists base [] other "Finalized" := by
  refine ⟨.head _, by decide +kernel, ?_⟩
  rintro ⟨other, before, -⟩
  exact Nat.not_lt_zero _ before

end Reading

end StatusTable
end GatewayClient
