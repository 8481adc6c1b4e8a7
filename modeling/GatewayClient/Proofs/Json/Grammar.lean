import GatewayClient.Proofs.Json.Leaves

/-!
# The grammar of JSON

`Writes` says which characters write a value. Numbers, words and strings are what their readers take
as a whole; arrays and objects are put together from their parts, with blanks around each.

**A text is read as a value exactly if it writes the value, with blanks around it**
(`ofPoints_eq_ok_iff`). One direction follows what the readers take, the other what the grammar puts
together. Both go by induction on the fuel: every part is shorter than its whole, so the length of a
text is fuel enough.
-/

set_option autoImplicit false

namespace GatewayClient.Json

/-- The code points are blanks. -/
def IsGap (ps : List CodePoint) : Prop := ∀ c ∈ ps, isGap c = true

/-! ## The grammar -/

mutual

/-- The characters write the value. -/
inductive Writes : List CodePoint → Json → Prop
  | scalar {cs : List Char} {v : Json} (read : scalar cs = .ok (v, [])) : Writes (cs.map .char) v
  | str {body : List CodePoint} {t : Text} (read : string body = .ok (t, [])) :
      Writes (.char '"' :: body) (.str t)
  | noItems {gap : List CodePoint} (blank : IsGap gap) :
      Writes (.char '[' :: (gap ++ [.char ']'])) (.arr [])
  | arr {gap body : List CodePoint} {items : List Json} (blank : IsGap gap)
      (inner : WritesItems body items) : Writes (.char '[' :: (gap ++ body)) (.arr items)
  | noMembers {gap : List CodePoint} (blank : IsGap gap) :
      Writes (.char '{' :: (gap ++ [.char '}'])) (.obj [])
  | obj {gap body : List CodePoint} {pairs : List (Text × Json)} (blank : IsGap gap)
      (inner : WritesMembers body pairs) :
      Writes (.char '{' :: (gap ++ body)) (.obj (Fields.ofPairs pairs))

/-- The characters write the items of an array, up to and with the closing bracket. -/
inductive WritesItems : List CodePoint → List Json → Prop
  | last {ps gap : List CodePoint} {v : Json} (first : Writes ps v) (blank : IsGap gap) :
      WritesItems (ps ++ (gap ++ [.char ']'])) [v]
  | more {ps before after rest : List CodePoint} {v : Json} {items : List Json}
      (first : Writes ps v) (blank : IsGap before) (blank' : IsGap after)
      (others : WritesItems rest items) :
      WritesItems (ps ++ (before ++ .char ',' :: (after ++ rest))) (v :: items)

/-- The characters write a member of an object. -/
inductive WritesMember : List CodePoint → Text × Json → Prop
  | mk {body before after ps : List CodePoint} {key : Text} {v : Json}
      (name : string body = .ok (key, [])) (blank : IsGap before) (blank' : IsGap after)
      (item : Writes ps v) :
      WritesMember (.char '"' :: (body ++ (before ++ .char ':' :: (after ++ ps)))) (key, v)

/-- The characters write the members of an object, up to and with the closing brace. -/
inductive WritesMembers : List CodePoint → List (Text × Json) → Prop
  | last {ps gap : List CodePoint} {pair : Text × Json} (first : WritesMember ps pair)
      (blank : IsGap gap) : WritesMembers (ps ++ (gap ++ [.char '}'])) [pair]
  | more {ps before after rest : List CodePoint} {pair : Text × Json} {pairs : List (Text × Json)}
      (first : WritesMember ps pair) (blank : IsGap before) (blank' : IsGap after)
      (others : WritesMembers rest pairs) :
      WritesMembers (ps ++ (before ++ .char ',' :: (after ++ rest))) (pair :: pairs)

end

/-! ## Blanks -/

section Gaps

variable {p : CodePoint} {ps gap tail : List CodePoint}

/-- A number may go on with the code point. -/
def goesOn (p : CodePoint) : Bool := p.char?.any isNumeric

theorem isGap_nil : IsGap [] := nofun

/-- No number goes on with a blank. -/
theorem goesOn_of_isGap (blank : isGap p = true) : goesOn p = false := by
  simp only [isGap, Bool.or_eq_true, beq_iff_eq] at blank
  rcases blank with ((rfl | rfl) | rfl) | rfl <;> rfl

/-- Blanks are skipped up to something else. -/
theorem skipGap_append (blank : IsGap gap) (apart : Apart isGap tail) :
    skipGap (gap ++ tail) = tail :=
  dropWhile_append_apart blank apart

/-- What is skipped are blanks. -/
theorem skipGap_parts (ps : List CodePoint) : ∃ gap, ps = gap ++ skipGap ps ∧ IsGap gap :=
  ⟨ps.takeWhile isGap, List.takeWhile_append_dropWhile.symm, List.all_eq_true.mp List.all_takeWhile⟩

/-- After blanks and a mark that no number goes on with, a number has ended. -/
theorem apart_gap (blank : IsGap gap) (mark : goesOn p = false) :
    Apart goesOn (gap ++ p :: tail) :=
  Apart.append (fun q mem => goesOn_of_isGap (blank q (List.mem_of_mem_head? mem)))
    (apart_cons.mpr mark)

end Gaps

/-! ## What is read follows the grammar -/

section Sound

variable {fuel : Nat} {ps rest : List CodePoint}

/-- What a reader of values takes writes what it reads. -/
def TakesValues (fuel : Nat) : Prop := ∀ {ps rest : List CodePoint} {v : Json},
  value fuel ps = .ok (v, rest) → ∃ used, ps = used ++ rest ∧ Writes used v

/-- What a reader of items takes writes what it reads. -/
def TakesItems (fuel : Nat) : Prop := ∀ {ps rest : List CodePoint} {vs : List Json},
  items fuel ps = .ok (vs, rest) → ∃ used, ps = used ++ rest ∧ WritesItems used vs

/-- What a reader of members takes writes what it reads. -/
def TakesMembers (fuel : Nat) : Prop := ∀ {ps rest : List CodePoint} {pairs : List (Text × Json)},
  members fuel ps = .ok (pairs, rest) → ∃ used, ps = used ++ rest ∧ WritesMembers used pairs

/-- A word is split off as it stands. -/
theorem takeWord_parts (ps : List CodePoint) :
    ps = (takeWord ps).1.map .char ++ (takeWord ps).2 := by
  induction ps using takeWord.induct with
  | case1 c rest word ih =>
    rw [takeWord, if_pos word, List.map_cons, List.cons_append, ← ih]
  | case2 c rest word => rw [takeWord, if_neg word, List.map_nil, List.nil_append]
  | case3 rest other =>
    rw [takeWord, List.map_nil, List.nil_append]
    exact other

/-- What a word was read of reads the same alone. -/
theorem word_whole {v : Json} (h : word ps = .ok (v, rest)) :
    ∃ used, ps = used.map .char ++ rest ∧ scalar used = .ok (v, []) := by
  unfold word at h
  dsimp only at h
  split at h
  next left read =>
    obtain ⟨rfl, rfl⟩ := Prod.mk.inj (Except.ok.inj h)
    obtain ⟨used, parts, -, -, again⟩ := scalar_frame read
    have alone := again apart_nil
    rw [List.append_nil] at alone
    refine ⟨used, ?_, alone⟩
    rw [← List.append_assoc, ← List.map_append, ← parts]
    exact takeWord_parts ps
  next => cases h

/-- What a string was read of reads the same alone. -/
theorem string_whole {t : Text} (h : string ps = .ok (t, rest)) :
    ∃ used, ps = used ++ rest ∧ string used = .ok (t, []) := by
  obtain ⟨used, rfl, -, again⟩ := string_frame h
  have alone := again []
  rw [List.append_nil] at alone
  exact ⟨used, rfl, alone⟩

/-- A value is a scalar, a string, or a bracket with what stands inside. -/
theorem takesValues_succ (takesItems : TakesItems fuel) (takesMembers : TakesMembers fuel) :
    TakesValues (fuel + 1) := by
  intro ps rest v h
  unfold value at h
  -- The character in front tells a string, an array and an object apart; anything else is a word.
  split at h
  next body =>
    split at h
    next t left read =>
      obtain ⟨rfl, rfl⟩ := Prod.mk.inj (Except.ok.inj h)
      obtain ⟨used, rfl, alone⟩ := string_whole read
      exact ⟨.char '"' :: used, rfl, .str alone⟩
    next => cases h
  next body =>
    obtain ⟨gap, parts, blank⟩ := skipGap_parts body
    split at h
    next left closed =>
      obtain ⟨rfl, rfl⟩ := Prod.mk.inj (Except.ok.inj h)
      rw [closed] at parts
      refine ⟨.char '[' :: (gap ++ [.char ']']), ?_, .noItems blank⟩
      rw [parts, List.cons_append, List.append_assoc, List.singleton_append]
    next =>
      split at h
      next vs left read =>
        obtain ⟨rfl, rfl⟩ := Prod.mk.inj (Except.ok.inj h)
        obtain ⟨used, taken, inner⟩ := takesItems read
        refine ⟨.char '[' :: (gap ++ used), ?_, .arr blank inner⟩
        rw [parts, taken, List.cons_append, List.append_assoc]
      next => cases h
  next body =>
    obtain ⟨gap, parts, blank⟩ := skipGap_parts body
    split at h
    next left closed =>
      obtain ⟨rfl, rfl⟩ := Prod.mk.inj (Except.ok.inj h)
      rw [closed] at parts
      refine ⟨.char '{' :: (gap ++ [.char '}']), ?_, .noMembers blank⟩
      rw [parts, List.cons_append, List.append_assoc, List.singleton_append]
    next =>
      split at h
      next pairs left read =>
        obtain ⟨rfl, rfl⟩ := Prod.mk.inj (Except.ok.inj h)
        obtain ⟨used, taken, inner⟩ := takesMembers read
        refine ⟨.char '{' :: (gap ++ used), ?_, .obj blank inner⟩
        rw [parts, taken, List.cons_append, List.append_assoc]
      next => cases h
  next =>
    obtain ⟨used, rfl, alone⟩ := word_whole h
    exact ⟨used.map .char, rfl, .scalar alone⟩

/-- Items are a value, and a closing bracket or a comma with further items. -/
theorem takesItems_succ (takesValues : TakesValues fuel) (takesItems : TakesItems fuel) :
    TakesItems (fuel + 1) := by
  intro ps rest vs h
  unfold items at h
  split at h
  next => cases h
  next v behind read =>
    obtain ⟨used, rfl, first⟩ := takesValues read
    obtain ⟨gap, parts, blank⟩ := skipGap_parts behind
    split at h
    next left closed =>
      obtain ⟨rfl, rfl⟩ := Prod.mk.inj (Except.ok.inj h)
      rw [closed] at parts
      refine ⟨used ++ (gap ++ [.char ']']), ?_, .last first blank⟩
      rw [parts, List.append_assoc, List.append_assoc, List.singleton_append]
    next left comma =>
      obtain ⟨gap', parts', blank'⟩ := skipGap_parts left
      split at h
      next more left read =>
        obtain ⟨rfl, rfl⟩ := Prod.mk.inj (Except.ok.inj h)
        obtain ⟨others, taken, inner⟩ := takesItems read
        refine ⟨used ++ (gap ++ .char ',' :: (gap' ++ others)), ?_, .more first blank blank' inner⟩
        rw [parts, comma, parts', taken]
        simp only [List.append_assoc, List.cons_append]
      next => cases h
    next => cases h

/-- Members are a key and a value, and a closing brace or a comma with further members. -/
theorem takesMembers_succ (takesValues : TakesValues fuel) (takesMembers : TakesMembers fuel) :
    TakesMembers (fuel + 1) := by
  intro ps rest pairs h
  unfold members at h
  split at h
  next body =>
    split at h
    next => cases h
    next key behind read =>
      obtain ⟨name, rfl, alone⟩ := string_whole read
      obtain ⟨before, parts, blank_before⟩ := skipGap_parts behind
      split at h
      next rest' colon =>
        obtain ⟨after, parts', blank_after⟩ := skipGap_parts rest'
        split at h
        next => cases h
        next v behind' read =>
          obtain ⟨used, taken, item⟩ := takesValues read
          have first := WritesMember.mk alone blank_before blank_after item
          have text : .char '"' :: (name ++ behind) =
              .char '"' :: (name ++ (before ++ .char ':' :: (after ++ used))) ++ behind' := by
            rw [parts, colon, parts', taken]
            simp only [List.append_assoc, List.cons_append]
          obtain ⟨gap, ends, blank⟩ := skipGap_parts behind'
          rw [text, ends]
          split at h
          next left closed =>
            obtain ⟨rfl, rfl⟩ := Prod.mk.inj (Except.ok.inj h)
            refine ⟨_, ?_, .last first blank⟩
            rw [closed, List.append_assoc, List.append_assoc, List.singleton_append]
          next left comma =>
            obtain ⟨next, parts, blank_next⟩ := skipGap_parts left
            split at h
            next more left read =>
              obtain ⟨rfl, rfl⟩ := Prod.mk.inj (Except.ok.inj h)
              obtain ⟨others, taken, inner⟩ := takesMembers read
              refine ⟨_, ?_, .more first blank blank_next inner⟩
              rw [comma, parts, taken]
              simp only [List.append_assoc, List.cons_append]
            next => cases h
          next => cases h
      next => cases h
  next => cases h

/-- **What is read writes what is read of it**, whatever the fuel. The three readers call each other
with one unit less, so the induction is on it for all of them at once. -/
theorem takes (fuel : Nat) : TakesValues fuel ∧ TakesItems fuel ∧ TakesMembers fuel := by
  induction fuel with
  | zero => exact ⟨nofun, nofun, nofun⟩
  | succ fuel ih =>
    obtain ⟨values, items, members⟩ := ih
    exact ⟨takesValues_succ items members, takesItems_succ values items,
      takesMembers_succ values members⟩

end Sound

/-! ## What a value begins with -/

section Heads

variable {c : Char} {ps : List CodePoint} {v : Json}

/-- A value begins with such a character. -/
def opensValue (c : Char) : Bool := opensScalar c || ['"', '[', '{'].contains c

/-- What begins a value is no blank, closes no array and is ASCII. -/
theorem of_opensValue (opens : opensValue c = true) :
    isGap (.char c) = false ∧ c ≠ ']' ∧ c ≠ '\x00' ∧ c.toNat < 0x80 := by
  rw [opensValue, opensScalar, Bool.or_assoc, Bool.or_eq_true] at opens
  rcases opens with digit | other
  · refine ⟨Bool.eq_false_iff.mpr fun blank => ?_, ?_, ?_, toNat_lt_of_isAsciiDigit digit⟩
    · have numeric : goesOn (.char c) = true := isNumeric_of_isAsciiDigit c digit
      rw [goesOn_of_isGap blank] at numeric
      cases numeric
    all_goals
      rintro rfl
      cases digit
  · have all : (['-', 'n', 't', 'f', 'N', 'I', '"', '[', '{'].all fun c =>
        !isGap (.char c) && c != ']' && c != '\x00' && c.toNat < 0x80) = true := by decide
    have mem : c ∈ ['-', 'n', 't', 'f', 'N', 'I', '"', '[', '{'] := by
      rw [Bool.or_eq_true, List.contains_iff_mem, List.contains_iff_mem] at other
      exact List.mem_append.mpr other
    simpa [and_assoc] using List.all_eq_true.mp all c mem

/-- A scalar is read the same before anything that no number goes on with. -/
theorem scalar_append {cs : List Char} (read : scalar cs = .ok (v, [])) :
    (∀ c ∈ cs, isWordChar c = true) ∧ (∃ c ∈ cs.head?, opensScalar c = true) ∧
      ∀ {tail}, Apart isNumeric tail → scalar (cs ++ tail) = .ok (v, tail) := by
  obtain ⟨used, same, spelled, opens, again⟩ := scalar_frame read
  rw [List.append_nil] at same
  subst same
  exact ⟨spelled, opens, again⟩

/-- A string is read the same before anything. -/
theorem string_append {t : Text} (read : string ps = .ok (t, [])) :
    .char '\x00' ∉ ps ∧ ∀ tail, string (ps ++ tail) = .ok (t, tail) := by
  obtain ⟨used, same, clean, again⟩ := string_frame read
  rw [List.append_nil] at same
  subst same
  exact ⟨clean, again⟩

/-- A value begins with a character of its kind. -/
theorem Writes.head (h : Writes ps v) : ∃ c more, ps = .char c :: more ∧ opensValue c = true := by
  cases h with
  | scalar read =>
    obtain ⟨-, ⟨c, first, opens⟩, -⟩ := scalar_append read
    obtain ⟨more, rfl⟩ := List.head?_eq_some_iff.mp first
    exact ⟨c, more.map .char, rfl, by rw [opensValue, opens, Bool.true_or]⟩
  | str | noItems | arr | noMembers | obj => exact ⟨_, _, rfl, rfl⟩

theorem WritesItems.head {vs : List Json} (h : WritesItems ps vs) :
    ∃ c more, ps = .char c :: more ∧ opensValue c = true := by
  cases h with
  | last first | more first =>
    obtain ⟨c, more, rfl, opens⟩ := first.head
    exact ⟨c, _, rfl, opens⟩

/-- Members begin with the quote of a key. -/
theorem WritesMembers.head {pairs : List (Text × Json)} (h : WritesMembers ps pairs) :
    ∃ more, ps = .char '"' :: more := by
  cases h with
  | last first | more first =>
    cases first
    exact ⟨_, rfl⟩

end Heads

/-! ## What follows the grammar is read -/

section Complete

variable {fuel : Nat}

/-- The reader of values reads what writes a value. -/
def ReadsValues (fuel : Nat) : Prop := ∀ {ps tail : List CodePoint} {v : Json},
  Writes ps v → ps.length ≤ fuel → Apart goesOn tail → value fuel (ps ++ tail) = .ok (v, tail)

/-- The reader of items reads what writes items. -/
def ReadsItems (fuel : Nat) : Prop :=
  ∀ {ps : List CodePoint} (tail : List CodePoint) {vs : List Json},
    WritesItems ps vs → ps.length ≤ fuel → items fuel (ps ++ tail) = .ok (vs, tail)

/-- The reader of members reads what writes members. -/
def ReadsMembers (fuel : Nat) : Prop :=
  ∀ {ps : List CodePoint} (tail : List CodePoint) {pairs : List (Text × Json)},
    WritesMembers ps pairs → ps.length ≤ fuel → members fuel (ps ++ tail) = .ok (pairs, tail)

/-- What opens neither string, array nor object is read as a word. -/
theorem value_word {c : Char} (opens : opensScalar c = true) (ps : List CodePoint) :
    value (fuel + 1) (.char c :: ps) = word (.char c :: ps) := by
  rw [value]
  all_goals
    rintro rest same
    cases (List.cons.inj same).1
    cases opens

/-- Characters of a word are split off with all that go on with it. -/
theorem takeWord_append {cs : List Char} (spelled : ∀ c ∈ cs, isWordChar c = true)
    (tail : List CodePoint) :
    takeWord (cs.map .char ++ tail) = (cs ++ (takeWord tail).1, (takeWord tail).2) := by
  induction cs with
  | nil => rfl
  | cons c cs ih =>
    obtain ⟨first, others⟩ := List.forall_mem_cons.mp spelled
    rw [List.map_cons, List.cons_append, takeWord, if_pos first, ih others]
    rfl

/-- A scalar is read before anything that no number goes on with. -/
theorem word_append {cs : List Char} {tail : List CodePoint} {v : Json}
    (read : scalar cs = .ok (v, [])) (apart : Apart goesOn tail) :
    word (cs.map .char ++ tail) = .ok (v, tail) := by
  obtain ⟨spelled, -, again⟩ := scalar_append read
  have parts := takeWord_parts tail
  have behind : Apart isNumeric (takeWord tail).1 := by
    intro c mem
    refine apart (.char c) ?_
    obtain ⟨more, same⟩ := List.head?_eq_some_iff.mp mem
    rw [parts, same]
    rfl
  rw [word, takeWord_append spelled]
  dsimp only
  rw [again behind]
  dsimp only
  rw [← parts]

/-- An array that is closed at once is empty. -/
theorem value_noItems {body rest : List CodePoint} (closed : skipGap body = .char ']' :: rest) :
    value (fuel + 1) (.char '[' :: body) = .ok (.arr [], rest) := by
  rw [value, closed]
  rfl

/-- An array is what stands in its brackets. -/
theorem value_arr {body rest : List CodePoint} {vs : List Json}
    (another : Apart (· == .char ']') (skipGap body))
    (read : items fuel (skipGap body) = .ok (vs, rest)) :
    value (fuel + 1) (.char '[' :: body) = .ok (.arr vs, rest) := by
  rw [value]
  split
  next closed =>
    rw [closed] at another
    cases apart_cons.mp another
  next => rw [read]

/-- An object that is closed at once is empty. -/
theorem value_noMembers {body rest : List CodePoint} (closed : skipGap body = .char '}' :: rest) :
    value (fuel + 1) (.char '{' :: body) = .ok (.obj [], rest) := by
  rw [value, closed]
  rfl

/-- An object is what stands in its braces. The last of equal keys counts. -/
theorem value_obj {body rest : List CodePoint} {pairs : List (Text × Json)}
    (another : Apart (· == .char '}') (skipGap body))
    (read : members fuel (skipGap body) = .ok (pairs, rest)) :
    value (fuel + 1) (.char '{' :: body) = .ok (.obj (Fields.ofPairs pairs), rest) := by
  rw [value]
  split
  next closed =>
    rw [closed] at another
    cases apart_cons.mp another
  next => rw [read]

/-- What writes a value is read, if its parts are. -/
theorem readsValues_succ (readsItems : ReadsItems fuel) (readsMembers : ReadsMembers fuel) :
    ReadsValues (fuel + 1) := by
  intro ps tail v h enough apart
  cases h with
  | scalar read =>
    obtain ⟨-, ⟨c, first, opens⟩, -⟩ := scalar_append read
    obtain ⟨more, rfl⟩ := List.head?_eq_some_iff.mp first
    have read := word_append read apart
    rw [List.map_cons, List.cons_append] at read ⊢
    rw [value_word opens, read]
  | str read =>
    rw [List.cons_append, value, (string_append read).2]
  | @noItems gap blank =>
    rw [List.cons_append, List.append_assoc]
    exact value_noItems (skipGap_append blank (apart_cons.mpr rfl))
  | @arr gap body vs blank inner =>
    have read := readsItems tail inner (by simp at enough; omega)
    obtain ⟨c, more, rfl, opens⟩ := inner.head
    obtain ⟨filled, bracket, -⟩ := of_opensValue opens
    have skipped : skipGap (gap ++ (.char c :: more ++ tail)) = .char c :: more ++ tail :=
      skipGap_append blank (apart_cons.mpr filled)
    rw [List.cons_append, List.append_assoc]
    refine value_arr ?_ (by rw [skipped, read])
    rw [skipped]
    exact apart_cons.mpr (beq_eq_false_iff_ne.mpr fun same => bracket (CodePoint.char.inj same))
  | @noMembers gap blank =>
    rw [List.cons_append, List.append_assoc]
    exact value_noMembers (skipGap_append blank (apart_cons.mpr rfl))
  | @obj gap body pairs blank inner =>
    have read := readsMembers tail inner (by simp at enough; omega)
    obtain ⟨more, rfl⟩ := inner.head
    have skipped : skipGap (gap ++ (.char '"' :: more ++ tail)) = .char '"' :: more ++ tail :=
      skipGap_append blank (apart_cons.mpr rfl)
    rw [List.cons_append, List.append_assoc]
    refine value_obj ?_ (by rw [skipped, read])
    rw [skipped]
    exact apart_cons.mpr rfl

section Steps

variable {ps behind after rest : List CodePoint} {v : Json} {vs : List Json} {key : String}
  {pairs : List (Text × Json)}

theorem items_last (first : value fuel ps = .ok (v, behind))
    (closed : skipGap behind = .char ']' :: rest) :
    items (fuel + 1) ps = .ok ([v], rest) := by
  simp [items, first, closed]

/-- A value before a comma is an item, and others follow. -/
theorem items_more (first : value fuel ps = .ok (v, behind))
    (comma : skipGap behind = .char ',' :: after)
    (others : items fuel (skipGap after) = .ok (vs, rest)) :
    items (fuel + 1) ps = .ok (v :: vs, rest) := by
  simp [items, first, comma, others]

/-- A member is read: its key, a colon and its value, up to what stands behind it. -/
def ReadsMember (fuel : Nat) (ps : List CodePoint) (pair : Text × Json)
    (behind : List CodePoint) : Prop :=
  ∃ body more left, ps = .char '"' :: body ∧ string body = .ok (pair.1, more) ∧
    skipGap more = .char ':' :: left ∧ value fuel (skipGap left) = .ok (pair.2, behind)

theorem members_last {pair : Text × Json} (first : ReadsMember fuel ps pair behind)
    (closed : skipGap behind = .char '}' :: rest) : members (fuel + 1) ps = .ok ([pair], rest) := by
  obtain ⟨body, more, left, rfl, name, colon, item⟩ := first
  simp [members, name, colon, item, closed]

/-- A member before a comma is followed by others. -/
theorem members_more {pair : Text × Json} (first : ReadsMember fuel ps pair behind)
    (comma : skipGap behind = .char ',' :: after)
    (others : members fuel (skipGap after) = .ok (pairs, rest)) :
    members (fuel + 1) ps = .ok (pair :: pairs, rest) := by
  obtain ⟨body, more, left, rfl, name, colon, item⟩ := first
  simp [members, name, colon, item, comma, others]

end Steps

/-- The text of a part, a comma and the other parts goes on with the tail. -/
theorem append_more (ps before after rest tail : List CodePoint) :
    ps ++ (before ++ .char ',' :: (after ++ rest)) ++ tail =
      ps ++ (before ++ .char ',' :: (after ++ (rest ++ tail))) := by
  simp only [List.append_assoc, List.cons_append]

/-- What writes items is read, if values and fewer items are. -/
theorem readsItems_succ (readsValues : ReadsValues fuel) (readsItems : ReadsItems fuel) :
    ReadsItems (fuel + 1) := by
  intro ps tail vs h enough
  cases h with
  | @last ps gap v first blank =>
    rw [List.length_append, List.length_append, List.length_singleton] at enough
    have ends : Apart goesOn (gap ++ .char ']' :: tail) := apart_gap blank rfl
    have read := readsValues first (by omega) ends
    rw [List.append_assoc, List.append_assoc, List.singleton_append]
    exact items_last read (skipGap_append blank (apart_cons.mpr rfl))
  | @more ps before after rest v vs first blank blank_after others =>
    simp only [List.length_append, List.length_cons] at enough
    have read_others := readsItems tail others (by omega)
    obtain ⟨c, more, rfl, opens⟩ := others.head
    have skipped : skipGap (after ++ (.char c :: more ++ tail)) = .char c :: more ++ tail :=
      skipGap_append blank_after (apart_cons.mpr (of_opensValue opens).1)
    rw [append_more]
    refine items_more (readsValues first (by omega) (apart_gap blank rfl))
      (skipGap_append blank (apart_cons.mpr rfl)) ?_
    rw [skipped, read_others]

/-- What writes a member is read, if its value is. -/
theorem readsMember {ps tail : List CodePoint} {pair : Text × Json} (readsValues : ReadsValues fuel)
    (h : WritesMember ps pair) (enough : ps.length ≤ fuel + 1) (apart : Apart goesOn tail) :
    ReadsMember fuel (ps ++ tail) pair tail := by
  cases h with
  | @mk body before after ps key v name blank blank_after item =>
    simp only [List.length_append, List.length_cons] at enough
    have read := readsValues item (by omega) apart
    obtain ⟨c, more, rfl, opens⟩ := item.head
    have skipped : skipGap (after ++ (.char c :: more ++ tail)) = .char c :: more ++ tail :=
      skipGap_append blank_after (apart_cons.mpr (of_opensValue opens).1)
    refine ⟨body ++ (before ++ .char ':' :: (after ++ (.char c :: more ++ tail))), _, _, ?_,
      (string_append name).2 _, skipGap_append blank (apart_cons.mpr rfl), ?_⟩
    · simp only [List.append_assoc, List.cons_append]
    · rw [skipped, read]

/-- What writes members is read, if values and fewer members are. -/
theorem readsMembers_succ (readsValues : ReadsValues fuel) (readsMembers : ReadsMembers fuel) :
    ReadsMembers (fuel + 1) := by
  intro ps tail pairs h enough
  cases h with
  | @last ps gap pair first blank =>
    rw [List.length_append, List.length_append, List.length_singleton] at enough
    have ends : Apart goesOn (gap ++ .char '}' :: tail) := apart_gap blank rfl
    have read := readsMember readsValues first (by omega) ends
    rw [List.append_assoc, List.append_assoc, List.singleton_append]
    exact members_last read (skipGap_append blank (apart_cons.mpr rfl))
  | @more ps before after rest pair pairs first blank blank_after others =>
    simp only [List.length_append, List.length_cons] at enough
    have read_others := readsMembers tail others (by omega)
    obtain ⟨more, rfl⟩ := others.head
    have skipped : skipGap (after ++ (.char '"' :: more ++ tail)) = .char '"' :: more ++ tail :=
      skipGap_append blank_after (apart_cons.mpr rfl)
    rw [append_more]
    refine members_more (readsMember readsValues first (by omega) (apart_gap blank rfl))
      (skipGap_append blank (apart_cons.mpr rfl)) ?_
    rw [skipped, read_others]

/-- **What writes a value is read**, with fuel for its length. The induction is that of `takes`. -/
theorem reads (fuel : Nat) : ReadsValues fuel ∧ ReadsItems fuel ∧ ReadsMembers fuel := by
  induction fuel with
  | zero =>
    -- nothing that is written is empty
    refine ⟨fun h empty _ => ?_, fun _ _ h empty => ?_, fun _ _ h empty => ?_⟩
    · obtain ⟨c, more, rfl, -⟩ := h.head
      cases empty
    · obtain ⟨c, more, rfl, -⟩ := h.head
      cases empty
    · obtain ⟨more, rfl⟩ := h.head
      cases empty
  | succ fuel ih =>
    obtain ⟨values, items, members⟩ := ih
    exact ⟨readsValues_succ items members, readsItems_succ values items,
      readsMembers_succ values members⟩

end Complete

/-! ## Whole texts -/

/-- The characters write the value, with blanks around it. -/
def WritesText (ps : List CodePoint) (v : Json) : Prop :=
  ∃ before used after, ps = before ++ (used ++ after) ∧ IsGap before ∧ IsGap after ∧ Writes used v

/-- **A text is read as a value exactly if it writes the value.** -/
theorem ofPoints_eq_ok_iff {ps : List CodePoint} {v : Json} :
    ofPoints ps = .ok v ↔ WritesText ps v := by
  constructor
  · intro h
    unfold ofPoints at h
    split at h
    next result rest read =>
      split at h
      next ended =>
        cases h
        obtain ⟨before, parts, blank⟩ := skipGap_parts ps
        obtain ⟨used, taken, writes⟩ := (takes _).1 read
        obtain ⟨after, parts_rest, blank_after⟩ := skipGap_parts rest
        rw [List.isEmpty_iff.mp ended, List.append_nil] at parts_rest
        subst parts_rest
        exact ⟨before, used, rest, by rw [parts, taken], blank, blank_after, writes⟩
      next => cases h
    next => cases h
  · rintro ⟨before, used, after, rfl, blank, blank_after, writes⟩
    have ends : Apart goesOn after := fun c mem =>
      goesOn_of_isGap (blank_after c (List.mem_of_mem_head? mem))
    -- The fuel is the length of the text, which is enough for any value in it.
    have read := (reads ((before ++ (used ++ after)).length + 1)).1 writes (by simp; omega) ends
    have skipped : skipGap (before ++ (used ++ after)) = used ++ after := by
      obtain ⟨c, more, rfl, opens⟩ := writes.head
      exact skipGap_append blank (apart_cons.mpr (of_opensValue opens).1)
    have ended : skipGap after = [] := by
      have all := skipGap_append blank_after apart_nil
      rwa [List.append_nil] at all
    rw [ofPoints, skipped, read]
    dsimp only
    rw [ended]
    rfl

end GatewayClient.Json
