import GatewayClient.Percent
import GatewayClient.Proofs.Bytes.Utf8

/-!
# What is percent-encoded can be read

An encoded text is made of letters, digits, four marks and percent signs
(`isWritten_of_mem_encode`), so no separator of a URL stands in it. In a component of a query there
are plus signs besides.

**Decoding undoes encoding** (`decode?_encode`, `decodeComponent?_encodeComponent`), byte by byte
and then character by character. A query falls into its pairs where the ampersands are, and each
pair into key and value at the equals sign, so **a query string determines its pairs**
(`encodeQuery_inj`).
-/

set_option autoImplicit false

namespace GatewayClient.Percent

open GatewayClient.Text

/-! ## Bytes -/

/-- An encoded text is made of such characters. -/
def isWritten (c : Char) : Bool := c.isAlphanum || ['-', '.', '_', '~', '%'].contains c

/-- What holds of the numbers below 256 holds of all bytes. -/
theorem forall_byte {P : UInt8 → Prop} (h : ∀ n : Fin 256, P (UInt8.ofNat n)) (b : UInt8) :
    P b := by
  have held := h ⟨b.toNat, b.toNat_lt⟩
  rwa [UInt8.ofNat_toNat] at held

/-- What is read after a character other than a percent sign. -/
theorem decodeBytes_cons {c : Char} (plain : c ≠ '%') (rest : List Char) :
    decodeBytes (c :: rest) = String.utf8EncodeChar c ++ decodeBytes rest := by
  rw [decodeBytes]
  rintro h l more same -
  exact plain same

/-- A percent sign with two digits is read as a byte. -/
theorem decodeBytes_escape {h l : Char} {high low : Nat} (first : hexValue? h = some high)
    (second : hexValue? l = some low) (rest : List Char) :
    decodeBytes ('%' :: h :: l :: rest) = UInt8.ofNat (high * 16 + low) :: decodeBytes rest := by
  rw [decodeBytes, first, second]

/-- A digit of an escape is read back. -/
theorem hexValue?_upperHexDigit {n : Nat} (digit : n < 16) :
    hexValue? (upperHexDigit n) = some n := by
  have all : ∀ n : Fin 16, hexValue? (upperHexDigit n) = some n.val := by decide
  exact all ⟨n, digit⟩

/-- A byte that stands for itself is a character of one byte, and no percent sign. -/
theorem reads_unreserved : ∀ b : UInt8, isUnreserved b = true →
    Char.ofNat b.toNat ≠ '%' ∧ String.utf8EncodeChar (Char.ofNat b.toNat) = [b] :=
  forall_byte (by decide +kernel)

/-- A byte is read back. -/
theorem decodeBytes_encodeByte (b : UInt8) (rest : List Char) :
    decodeBytes (encodeByte b ++ rest) = b :: decodeBytes rest := by
  unfold encodeByte
  split
  next unreserved =>
    obtain ⟨plain, same⟩ := reads_unreserved b unreserved
    rw [List.singleton_append, decodeBytes_cons plain, same, List.singleton_append]
  next =>
    have byte := b.toNat_lt
    have sum : b.toNat / 16 * 16 + b.toNat % 16 = b.toNat := by omega
    have read := decodeBytes_escape (hexValue?_upperHexDigit (n := b.toNat / 16) (by omega))
      (hexValue?_upperHexDigit (n := b.toNat % 16) (by omega)) rest
    rw [sum, UInt8.ofNat_toNat] at read
    exact read

/-- Bytes are read back. -/
theorem decodeBytes_flatMap_encodeByte (bytes : Bytes) :
    decodeBytes (bytes.flatMap encodeByte) = bytes := by
  induction bytes with
  | nil => rfl
  | cons b bytes ih => rw [List.flatMap_cons, decodeBytes_encodeByte, ih]

/-! ## Path segments -/

section Segment

/-- The text that a path segment writes. -/
def decode? (segment : List Char) : Option String :=
  (Bytes.Utf8.decode? .malformed (decodeBytes segment)).bind Text.toString?

/-- A text is read back from its path segment. -/
theorem decode?_encode (s : String) : decode? (encode s).toList = some s := by
  rw [decode?, encode, String.toList_ofList, decodeBytes_flatMap_encodeByte,
    Bytes.Utf8.decode?_ofText, Option.bind_some, Text.toString?_coe]

theorem all_isWritten_encodeByte : ∀ b : UInt8, (encodeByte b).all isWritten = true :=
  forall_byte (by decide +kernel)

theorem isWritten_encodeByte (b : UInt8) : ∀ c ∈ encodeByte b, isWritten c = true :=
  List.all_eq_true.mp (all_isWritten_encodeByte b)

/-- An encoded text is made of written characters. -/
theorem isWritten_of_mem_encode {s : String} {c : Char} (mem : c ∈ (encode s).toList) :
    isWritten c = true := by
  rw [encode, String.toList_ofList] at mem
  obtain ⟨b, -, written⟩ := List.mem_flatMap.mp mem
  exact isWritten_encodeByte b c written

/-- No separator stands in an encoded text. -/
theorem not_mem_encode {s : String} {c : Char} (other : isWritten c = false) :
    c ∉ (encode s).toList := fun mem =>
  Bool.false_ne_true (other.symm.trans (isWritten_of_mem_encode mem))

/-- Only the empty text is encoded as nothing. -/
theorem encode_ne_nil {s : String} (filled : s ≠ "") : (encode s).toList ≠ [] := by
  intro empty
  have read := decode?_encode s
  rw [empty] at read
  exact filled (Option.some_inj.mp read).symm

end Segment

/-! ## Components of a query -/

section Component

/-- What a character of a query stands for before bytes are read. -/
def spaced (c : Char) : Char := if c == '+' then ' ' else c

/-- The text that a key or a value of a query writes. -/
def decodeComponent? (component : List Char) : Option String := decode? (component.map spaced)

theorem map_spaced_encodeByte (b : UInt8) : (encodeByte b).map spaced = encodeByte b := by
  have same : ∀ c ∈ encodeByte b, spaced c = c := by
    intro c mem
    have written := isWritten_encodeByte b c mem
    have plain : c ≠ '+' := by
      rintro rfl
      exact absurd written (by decide)
    rw [spaced, if_neg (by simpa using plain)]
  rw [List.map_congr_left same, List.map_id']

/-- A byte of a query is read back. -/
theorem decodeBytes_encodeQueryByte (b : UInt8) (rest : List Char) :
    decodeBytes ((encodeQueryByte b).map spaced ++ rest) = b :: decodeBytes rest := by
  by_cases space : b = 32
  · subst space
    exact decodeBytes_cons (c := ' ') (by decide) rest
  · rw [encodeQueryByte, if_neg (by simpa using space), map_spaced_encodeByte,
      decodeBytes_encodeByte]

/-- The bytes of a query are read back. -/
theorem decodeBytes_flatMap_encodeQueryByte (bytes : Bytes) :
    decodeBytes ((bytes.flatMap encodeQueryByte).map spaced) = bytes := by
  induction bytes with
  | nil => rfl
  | cons b bytes ih =>
    rw [List.flatMap_cons, List.map_append, decodeBytes_encodeQueryByte, ih]

/-- A text is read back from its component of a query. -/
theorem decodeComponent?_encodeComponent (s : String) :
    decodeComponent? (encodeComponent s).toList = some s := by
  rw [decodeComponent?, decode?, encodeComponent, String.toList_ofList,
    decodeBytes_flatMap_encodeQueryByte, Bytes.Utf8.decode?_ofText, Option.bind_some,
    Text.toString?_coe]

/-- A component is made of written characters and plus signs. -/
theorem isWritten_of_mem_encodeComponent {s : String} {c : Char}
    (mem : c ∈ (encodeComponent s).toList) : isWritten c = true ∨ c = '+' := by
  rw [encodeComponent, String.toList_ofList] at mem
  obtain ⟨b, -, written⟩ := List.mem_flatMap.mp mem
  unfold encodeQueryByte at written
  split at written
  · exact .inr (List.mem_singleton.mp written)
  · exact .inl (isWritten_encodeByte b c written)

end Component

/-! ## Whole queries -/

section Query

/-- A pair as it stands in a query. -/
def pairChars (pair : String × String) : List Char :=
  (encodeComponent pair.1).toList ++ '=' :: (encodeComponent pair.2).toList

/-- A query is its pairs with ampersands between them. -/
theorem toList_encodeQuery (pairs : List (String × String)) :
    (encodeQuery pairs).toList = ['&'].intercalate (pairs.map pairChars) := by
  have chars : String.toList ∘ (fun pair : String × String =>
      encodeComponent pair.1 ++ "=" ++ encodeComponent pair.2) = pairChars := by
    funext pair
    rw [Function.comp_apply, String.toList_append, String.toList_append, List.append_assoc]
    rfl
  rw [encodeQuery, String.toList_intercalate, List.map_map, chars]
  rfl

theorem not_mem_encodeComponent {s : String} {c : Char} (other : isWritten c = false)
    (plain : c ≠ '+') : c ∉ (encodeComponent s).toList := by
  intro mem
  rcases isWritten_of_mem_encodeComponent mem with written | plus
  · exact Bool.false_ne_true (other.symm.trans written)
  · exact plain plus

/-- A pair falls into its key and its value at the equals sign. -/
theorem splitOn_pairChars (pair : String × String) :
    (pairChars pair).splitOn '=' =
      [(encodeComponent pair.1).toList, (encodeComponent pair.2).toList] := by
  have apart : ∀ s : String, '=' ∉ (encodeComponent s).toList :=
    fun s => not_mem_encodeComponent (by decide) (by decide)
  rw [pairChars, List.splitOn_append_cons_self_of_not_mem (apart pair.1),
    List.splitOn_eq_singleton (apart pair.2)]

/-- Texts are told apart by their components. -/
theorem encodeComponent_inj {s t : String} :
    (encodeComponent s).toList = (encodeComponent t).toList ↔ s = t := by
  constructor
  · intro same
    have read := congrArg decodeComponent? same
    rwa [decodeComponent?_encodeComponent, decodeComponent?_encodeComponent,
      Option.some_inj] at read
  · rintro rfl
    rfl

/-- Pairs are told apart as they stand in a query. -/
theorem pairChars_inj {pair other : String × String} (same : pairChars pair = pairChars other) :
    pair = other := by
  have parts := congrArg (List.splitOn '=') same
  rw [splitOn_pairChars, splitOn_pairChars, List.cons.injEq, List.cons.injEq] at parts
  exact Prod.ext (encodeComponent_inj.mp parts.1) (encodeComponent_inj.mp parts.2.1)

/-- A query falls into its pairs where the ampersands are. Nothing but an empty query is written as
nothing. -/
theorem splitOn_encodeQuery {pairs : List (String × String)} (filled : pairs ≠ []) :
    (encodeQuery pairs).toList.splitOn '&' = pairs.map pairChars := by
  rw [toList_encodeQuery]
  refine List.splitOn_intercalate '&' ?_ (mt List.map_eq_nil_iff.mp filled)
  intro chars mem
  obtain ⟨pair, -, rfl⟩ := List.mem_map.mp mem
  have apart : ∀ s : String, '&' ∉ (encodeComponent s).toList :=
    fun s => not_mem_encodeComponent (by decide) (by decide)
  rw [pairChars, List.mem_append, List.mem_cons]
  rintro (inKey | equals | inValue)
  · exact apart pair.1 inKey
  · cases equals
  · exact apart pair.2 inValue

/-- A query of some pairs is written as something. -/
theorem encodeQuery_ne_empty {pairs : List (String × String)} (filled : pairs ≠ []) :
    encodeQuery pairs ≠ "" := by
  intro empty
  have parts := splitOn_encodeQuery filled
  rw [empty] at parts
  cases pairs with
  | nil => exact filled rfl
  | cons pair pairs =>
    rw [List.map_cons, pairChars] at parts
    have first : [] = (encodeComponent pair.1).toList ++ '=' :: (encodeComponent pair.2).toList :=
      (List.cons.inj parts).1
    exact List.append_ne_nil_of_right_ne_nil _ (List.cons_ne_nil _ _) first.symm

/-- A query string determines its pairs and their order. -/
theorem encodeQuery_inj {pairs others : List (String × String)} :
    encodeQuery pairs = encodeQuery others ↔ pairs = others := by
  constructor
  · intro same
    by_cases filled : pairs = []
    · by_cases others_filled : others = []
      · rw [filled, others_filled]
      · subst filled
        exact absurd same.symm (encodeQuery_ne_empty others_filled)
    · by_cases others_filled : others = []
      · subst others_filled
        exact absurd same (encodeQuery_ne_empty filled)
      · have parts := congrArg (fun text => text.toList.splitOn '&') same
        rw [splitOn_encodeQuery filled, splitOn_encodeQuery others_filled] at parts
        exact (List.map_inj_right fun _ _ => pairChars_inj).mp parts
  · rintro rfl
    rfl

end Query
end GatewayClient.Percent
