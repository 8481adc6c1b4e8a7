import GatewayClient.Bytes.Wide
import GatewayClient.Decimal.Literal
import GatewayClient.Json.Value
import GatewayClient.Text.Hex

/-!
# Reading JSON

The grammar is that of JSON with the three number words NaN, Infinity and -Infinity. A text is
read from left to right, and its first fault is reported. Whole numbers of more than 4300 digits
are refused. Of a repeated key the last value counts, at the place of the first.

A surrogate may stand in a string, as an escape or as it is, and nowhere else. Two escapes in a row
that are a surrogate pair are one character; any other surrogate is kept.

The three readers of values call each other with one unit of fuel less at each call. Every call
takes at least one character, so the length of the text is fuel enough.
-/

set_option autoImplicit false

namespace GatewayClient.Json

open GatewayClient.Text GatewayClient.Decimal GatewayClient.Bytes

/-- Why a text or a byte sequence is not JSON. -/
inductive Fault where
  | malformed
  | unreadable
  | tooManyDigits (count : Nat)
deriving DecidableEq, Repr

/-- What is reported for a fault; only a number that is too long is worth words. -/
def Fault.message? : Fault → Option String
  | .malformed | .unreadable => none
  | .tooManyDigits count =>
    some ("Exceeds the limit (" ++ toString digitLimit
      ++ " digits) for integer string conversion: value has " ++ toString count
      ++ " digits; use sys.set_int_max_str_digits() to increase the limit")

/-- The result of reading something at the front of a text of such symbols: it and what follows
it. -/
abbrev Reading (σ α : Type) := Except Fault (α × List σ)

/-- Blanks of the grammar. -/
def isGap (p : CodePoint) : Bool := p == .char ' ' || p == .char '\t' || p == .char '\n'
  || p == .char '\r'

/-- Skip blanks. -/
def skipGap (ps : List CodePoint) : List CodePoint := ps.dropWhile isGap

/-- The unit that four hexadecimal digits write. -/
def hexUnit? (a b c d : Char) : Option Nat := do
  let a ← hexValue? a
  let b ← hexValue? b
  let c ← hexValue? c
  let d ← hexValue? d
  return ((a * 16 + b) * 16 + c) * 16 + d

/-- The character that a letter behind a backslash stands for. -/
def escaped? (c : Char) : Option Char :=
  if c == '"' || c == '\\' || c == '/' then some c
  else if c == 'b' then some '\x08'
  else if c == 'f' then some '\x0c'
  else if c == 'n' then some '\n'
  else if c == 'r' then some '\r'
  else if c == 't' then some '\t'
  else none

/-- Put a part in front of the parts read. -/
def prepend (piece : Piece) : Reading CodePoint (List Piece) → Reading CodePoint (List Piece)
  | .ok (pieces, rest) => .ok (piece :: pieces, rest)
  | .error fault => .error fault

/-- Read up to the closing quote: units for numbered escapes, code points for anything else. -/
def stringPieces : List CodePoint → Reading CodePoint (List Piece)
  | [] => .error .malformed
  | .char '"' :: rest => .ok ([], rest)
  | .char '\\' :: .char 'u' :: .char a :: .char b :: .char c :: .char d :: rest =>
    match hexUnit? a b c d with
    | some unit => prepend (.unit unit) (stringPieces rest)
    | none => .error .malformed
  | .char '\\' :: .char c :: rest =>
    match escaped? c with
    | some c => prepend (.point (.char c)) (stringPieces rest)
    | none => .error .malformed
  | .char c :: rest =>
    if c.toNat < 0x20 || c == '\\' then .error .malformed
    else prepend (.point (.char c)) (stringPieces rest)
  | .surrogate offset :: rest => prepend (.point (.surrogate offset)) (stringPieces rest)

/-- Read a string whose opening quote has been taken. -/
def string (ps : List CodePoint) : Reading CodePoint Text :=
  match stringPieces ps with
  | .ok (pieces, rest) => .ok (⟨join pieces⟩, rest)
  | .error fault => .error fault

/-- The whole part of a number: a zero, or digits that start with none. -/
def wholePart : List Char → List Char × List Char
  | '0' :: rest => (['0'], rest)
  | cs => takeDigits cs

/-- The digits behind a point; no point, or a point without digits, is left alone. -/
def fractionPart (cs : List Char) : Option (List Char) × List Char :=
  match cs with
  | '.' :: rest =>
    let (digits, rest) := takeDigits rest
    if digits.isEmpty then (none, cs) else (some digits, rest)
  | _ => (none, cs)

/-- The exponent behind its mark; a mark without digits is left alone. -/
def exponentPart (cs : List Char) : Option Int × List Char :=
  match cs with
  | mark :: rest =>
    if mark == 'e' || mark == 'E' then
      let (negative, rest) := takeSign rest
      let (digits, rest) := takeDigits rest
      if digits.isEmpty then (none, cs)
      else (some (if negative then -(natOfDigits digits : Int) else natOfDigits digits), rest)
    else (none, cs)
  | [] => (none, cs)

/-- Read a number whose sign has been taken. -/
def number (negative : Bool) (cs : List Char) : Reading Char Json :=
  let (whole, rest) := wholePart cs
  let (fraction, rest) := fractionPart rest
  let (exponent, rest) := exponentPart rest
  if whole.isEmpty then .error .malformed
  else match fraction, exponent with
    | none, none =>
      if digitLimit < whole.length then .error (.tooManyDigits whole.length)
      else
        let n : Int := natOfDigits whole
        .ok (.num (.int (if negative then -n else n)), rest)
    | _, _ =>
      let digits := fraction.getD []
      let n : Numeral :=
        ⟨negative, natOfDigits (whole ++ digits), exponent.getD 0 - digits.length⟩
      .ok (.num (.real n.toFloat), rest)

/-- Read a value that starts with neither bracket, brace nor quote. -/
def scalar : List Char → Reading Char Json
  | 'n' :: 'u' :: 'l' :: 'l' :: rest => .ok (.null, rest)
  | 't' :: 'r' :: 'u' :: 'e' :: rest => .ok (.bool true, rest)
  | 'f' :: 'a' :: 'l' :: 's' :: 'e' :: rest => .ok (.bool false, rest)
  | 'N' :: 'a' :: 'N' :: rest => .ok (.num (.real Spelled.notANumber.toFloat), rest)
  | 'I' :: 'n' :: 'f' :: 'i' :: 'n' :: 'i' :: 't' :: 'y' :: rest =>
    .ok (.num (.real (Spelled.infinite false).toFloat), rest)
  | '-' :: 'I' :: 'n' :: 'f' :: 'i' :: 'n' :: 'i' :: 't' :: 'y' :: rest =>
    .ok (.num (.real (Spelled.infinite true).toFloat), rest)
  | '-' :: rest => number true rest
  | cs => number false cs

/-- A character of a number or a word. -/
def isWordChar (c : Char) : Bool := c.isAlphanum || c == '+' || c == '-' || c == '.'

/-- Split off the characters at the front that a number or a word may consist of. -/
def takeWord : List CodePoint → List Char × List CodePoint
  | .char c :: rest =>
    if isWordChar c then
      let taken := takeWord rest
      (c :: taken.1, taken.2)
    else ([], .char c :: rest)
  | rest => ([], rest)

/-- Read a number or a word. -/
def word (ps : List CodePoint) : Reading CodePoint Json :=
  let (cs, rest) := takeWord ps
  match scalar cs with
  | .ok (v, left) => .ok (v, left.map .char ++ rest)
  | .error fault => .error fault

mutual

/-- Read a value at the front of the text. -/
def value : (fuel : Nat) → List CodePoint → Reading CodePoint Json
  | 0, _ => .error .malformed
  | fuel + 1, ps =>
    match ps with
    | .char '"' :: rest =>
      match string rest with
      | .ok (s, rest) => .ok (.str s, rest)
      | .error fault => .error fault
    | .char '[' :: rest =>
      match skipGap rest with
      | .char ']' :: rest => .ok (.arr [], rest)
      | rest =>
        match items fuel rest with
        | .ok (items, rest) => .ok (.arr items, rest)
        | .error fault => .error fault
    | .char '{' :: rest =>
      match skipGap rest with
      | .char '}' :: rest => .ok (.obj [], rest)
      | rest =>
        match members fuel rest with
        | .ok (pairs, rest) => .ok (.obj (Fields.ofPairs pairs), rest)
        | .error fault => .error fault
    | ps => word ps

/-- Read the items of an array, up to and with the closing bracket. -/
def items : (fuel : Nat) → List CodePoint → Reading CodePoint (List Json)
  | 0, _ => .error .malformed
  | fuel + 1, ps =>
    match value fuel ps with
    | .error fault => .error fault
    | .ok (item, rest) =>
      match skipGap rest with
      | .char ']' :: rest => .ok ([item], rest)
      | .char ',' :: rest =>
        match items fuel (skipGap rest) with
        | .ok (more, rest) => .ok (item :: more, rest)
        | .error fault => .error fault
      | _ => .error .malformed

/-- Read the members of an object, up to and with the closing brace. -/
def members : (fuel : Nat) → List CodePoint → Reading CodePoint (List (Text × Json))
  | 0, _ => .error .malformed
  | fuel + 1, ps =>
    match ps with
    | .char '"' :: rest =>
      match string rest with
      | .error fault => .error fault
      | .ok (key, rest) =>
        match skipGap rest with
        | .char ':' :: rest =>
          match value fuel (skipGap rest) with
          | .error fault => .error fault
          | .ok (item, rest) =>
            match skipGap rest with
            | .char '}' :: rest => .ok ([(key, item)], rest)
            | .char ',' :: rest =>
              match members fuel (skipGap rest) with
              | .ok (more, rest) => .ok ((key, item) :: more, rest)
              | .error fault => .error fault
            | _ => .error .malformed
        | _ => .error .malformed
    | _ => .error .malformed

end

/-- Read a text that is one value, with blanks around it. -/
def ofPoints (ps : List CodePoint) : Except Fault Json :=
  match value (ps.length + 1) (skipGap ps) with
  | .ok (result, rest) => if (skipGap rest).isEmpty then .ok result else .error .malformed
  | .error fault => .error fault

/-- Read a JSON text. -/
def ofText (t : Text) : Except Fault Json := ofPoints t.points

end GatewayClient.Json
