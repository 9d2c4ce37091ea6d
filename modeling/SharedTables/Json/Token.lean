import SharedTables.Json.Basic
import SharedTables.Text.Half
import SharedTables.Text.Hex

/-! The tokens of JSON text. Where no token begins, or a string is broken, a token says so, and the
reader of the tokens decides which problem that is. -/
namespace SharedTables.Json

/-- What is wrong with JSON text. -/
inductive Problem
  | expectingValue
  | expectingName
  | expectingColon
  | expectingComma
  | extraData
  | unterminatedString
  | controlCharacter
  | badEscape
  | badNumericEscape
  | byteOrderMark
  deriving DecidableEq, Repr

/-- A token of JSON text. -/
inductive Token
  | openObject
  | closeObject
  | openArray
  | closeArray
  | comma
  | colon
  /-- A string with its escapes resolved. -/
  | text (value : String)
  /-- A number, a truth value or null. -/
  | scalar (value : Json)
  /-- A string that breaks off at a position. -/
  | broken (problem : Problem) (position : Nat)
  /-- A character that begins no token. -/
  | stray
  deriving Repr

/-- The white space between tokens. -/
def isSpace (c : Char) : Bool := c = ' ' || c = '\t' || c = '\n' || c = '\r'

/-- The character of an escape of one letter. -/
def escaped? : Char → Option Char
  | '"' => some '"'
  | '\\' => some '\\'
  | '/' => some '/'
  | 'b' => some '\x08'
  | 'f' => some '\x0c'
  | 'n' => some '\n'
  | 'r' => some '\r'
  | 't' => some '\t'
  | _ => none

/-- The number written by four hexadecimal digits. -/
def fourHex? (a b c d : Char) : Option Nat := do
  let a ← Text.hexValue? a
  let b ← Text.hexValue? b
  let c ← Text.hexValue? c
  let d ← Text.hexValue? d
  pure (((a * 16 + b) * 16 + c) * 16 + d)

/-- The character of a pair whose first unit was read and whose second unit may follow. As for any
unit, its four digits do not end the text. -/
def secondHalf? (unit : Nat) : List Char → Option Char
  | '\\' :: 'u' :: a :: b :: c :: d :: _ :: _ => (fourHex? a b c d).bind (Text.pairChar? unit)
  | _ => none

/-- What reading a string ends with: its characters and the rest of the text with its position, or
the problem and where it lies. -/
inductive Scan
  | done (value : List Char) (position : Nat) (rest : List Char)
  | failed (problem : Problem) (position : Nat)
  deriving Repr

/-- Reads the characters of a string up to its closing quote. The opening quote stood at `start`,
the characters begin at `position`, and `seen` holds those read already, last first. -/
def scanText (start : Nat) : Nat → List Char → List Char → Scan
  | _, _, [] => .failed .unterminatedString start
  | position, seen, '"' :: rest => .done seen.reverse (position + 1) rest
  | position, seen, '\\' :: 'u' :: a :: b :: c :: d :: e :: rest =>
    match fourHex? a b c d with
    | none => .failed .badNumericEscape (position + 1)
    | some unit =>
      match secondHalf? unit (e :: rest) with
      | some pair => scanText start (position + 12) (pair :: seen) (rest.drop 5)
      | none => scanText start (position + 6) (Text.unitChar unit :: seen) (e :: rest)
  | position, _, '\\' :: 'u' :: _ => .failed .badNumericEscape (position + 1)
  | position, seen, '\\' :: c :: rest =>
    match escaped? c with
    | some c => scanText start (position + 2) (c :: seen) rest
    | none => .failed .badEscape position
  | _, _, ['\\'] => .failed .unterminatedString start
  | position, seen, c :: rest =>
    if c.toNat ≤ 0x1f then .failed .controlCharacter position
    else scanText start (position + 1) (c :: seen) rest
termination_by _ _ cs => cs.length

/-- What is left after a string is shorter. -/
theorem scanText_length {start position : Nat} {seen cs value rest : List Char} {position' : Nat}
    (h : scanText start position seen cs = .done value position' rest) :
    rest.length < cs.length := by
  fun_induction scanText start position seen cs <;> simp_all <;> omega

/-- A place in a text: its position and what follows. -/
structure Cursor where
  position : Nat
  rest : List Char
  deriving Repr

/-- The place after `n` more characters. -/
def Cursor.skip (cur : Cursor) (n : Nat) : Cursor := ⟨cur.position + n, cur.rest.drop n⟩

/-- The digits at the front of a text. -/
def spanDigits (cur : Cursor) : List Nat × Cursor :=
  let digits := cur.rest.takeWhile Char.isDigit
  (digits.map fun c => c.toNat - 48, ⟨cur.position + digits.length, cur.rest.dropWhile Char.isDigit⟩)

/-- The fraction at the front of a text: a point and at least one digit. -/
def spanFraction (cur : Cursor) : Option (List Nat) × Cursor :=
  match cur.rest with
  | '.' :: _ =>
    let (digits, after) := spanDigits (cur.skip 1)
    if digits.isEmpty then (none, cur) else (some digits, after)
  | _ => (none, cur)

/-- The number of characters of a sign at the front of a text. -/
def signLength (cs : List Char) : Nat :=
  match cs with
  | '+' :: _ | '-' :: _ => 1
  | _ => 0

/-- The exponent at the front of a text: its letter, a sign and at least one digit. -/
def spanExponent (cur : Cursor) : Option Int × Cursor :=
  match cur.rest with
  | c :: rest =>
    if c = 'e' || c = 'E' then
      let (digits, after) := spanDigits (cur.skip (1 + signLength rest))
      if digits.isEmpty then (none, cur)
      else (some (signedInt (splitSign rest).1 (ofDigits digits)), after)
    else (none, cur)
  | [] => (none, cur)

/-- The whole part at the front of a text: a zero, or digits that do not begin with one. -/
def spanWhole (cur : Cursor) : List Nat × Cursor :=
  match cur.rest with
  | '0' :: _ => ([0], cur.skip 1)
  | _ => spanDigits cur

/-- The number at the front of a text, whose sign has been read. -/
def scanNumber? (negative : Bool) (cur : Cursor) : Option (Json × Cursor) :=
  let (whole, cur) := spanWhole cur
  if whole.isEmpty then none
  else
    let (fraction, cur) := spanFraction cur
    let (exponent, cur) := spanExponent cur
    if fraction.isNone && exponent.isNone then
      some (.int (signedInt negative (ofDigits whole)), cur)
    else
      let part := fraction.getD []
      some (.real (.ofDecimal negative (ofDigits (whole ++ part))
        (exponent.getD 0 - part.length)), cur)

/-- Words that stand for a value. -/
def words : List (List Char × Json) := [
  ("null".toList, .null), ("true".toList, .bool true), ("false".toList, .bool false),
  ("NaN".toList, .real .nan), ("Infinity".toList, .real (.infinite false)),
  ("-Infinity".toList, .real (.infinite true))]

/-- The word or number at the front of a text. -/
def scanScalar? (cur : Cursor) : Option (Json × Cursor) :=
  match words.find? fun word => word.1.isPrefixOf cur.rest with
  | some word => some (word.2, cur.skip word.1.length)
  | none =>
    match cur.rest with
    | '-' :: _ => scanNumber? true (cur.skip 1)
    | _ => scanNumber? false cur

/-- The token that begins with the character `c`, and the place after it. Nothing is read after a
broken token. -/
def nextToken (position : Nat) (c : Char) (rest : List Char) : Token × Cursor :=
  match c with
  | '\x7b' => (.openObject, ⟨position + 1, rest⟩)
  | '\x7d' => (.closeObject, ⟨position + 1, rest⟩)
  | '[' => (.openArray, ⟨position + 1, rest⟩)
  | ']' => (.closeArray, ⟨position + 1, rest⟩)
  | ',' => (.comma, ⟨position + 1, rest⟩)
  | ':' => (.colon, ⟨position + 1, rest⟩)
  | '"' =>
    match scanText position (position + 1) [] rest with
    | .done value after rest' => (.text (String.ofList value), ⟨after, rest'⟩)
    | .failed problem place => (.broken problem place, ⟨position, []⟩)
  | _ =>
    match scanScalar? ⟨position, c :: rest⟩ with
    | some (value, after) => (.scalar value, after)
    | none => (.stray, ⟨position, []⟩)

private theorem spanDigits_length (cur : Cursor) :
    (spanDigits cur).2.rest.length ≤ cur.rest.length :=
  (List.dropWhile_sublist _).length_le

private theorem skip_length (cur : Cursor) (n : Nat) :
    (cur.skip n).rest.length = cur.rest.length - n := by
  simp [Cursor.skip]

private theorem spanFraction_length (cur : Cursor) :
    (spanFraction cur).2.rest.length ≤ cur.rest.length := by
  unfold spanFraction
  split
  · dsimp only
    split
    · simp
    · exact Nat.le_trans (spanDigits_length _) (by rw [skip_length]; omega)
  · simp

private theorem spanExponent_length (cur : Cursor) :
    (spanExponent cur).2.rest.length ≤ cur.rest.length := by
  unfold spanExponent
  split
  · split
    · dsimp only
      split
      · simp
      · exact Nat.le_trans (spanDigits_length _) (by rw [skip_length]; omega)
    · simp
  · simp

private theorem spanWhole_length (cur : Cursor) (h : (spanWhole cur).1.isEmpty = false) :
    (spanWhole cur).2.rest.length < cur.rest.length := by
  unfold spanWhole at *
  split
  · rename_i rest same
    simp [Cursor.skip, same]
  · rename_i hrest
    have plain : (match cur.rest with | '0' :: _ => ([0], cur.skip 1) | _ => spanDigits cur) =
        spanDigits cur := by
      split
      · exact absurd ‹_› (hrest _)
      · rfl
    rw [plain] at h
    unfold spanDigits at h ⊢
    have total := congrArg List.length
      (List.takeWhile_append_dropWhile (p := Char.isDigit) (l := cur.rest))
    rw [List.length_append] at total
    have some_digit : 0 < (cur.rest.takeWhile Char.isDigit).length := by
      cases hd : cur.rest.takeWhile Char.isDigit with
      | nil => simp [hd] at h
      | cons _ _ => simp
    dsimp only
    omega

/-- What is left after a number is shorter. -/
theorem scanNumber?_length {negative : Bool} {cur after : Cursor} {value : Json}
    (h : scanNumber? negative cur = some (value, after)) : after.rest.length < cur.rest.length := by
  unfold scanNumber? at h
  dsimp only at h
  split at h
  · simp at h
  · rename_i some_whole
    have whole := spanWhole_length cur (by simpa using some_whole)
    have fraction := spanFraction_length (spanWhole cur).2
    have exponent := spanExponent_length (spanFraction (spanWhole cur).2).2
    split at h <;> · simp only [Option.some.injEq, Prod.mk.injEq] at h; rw [← h.2]; omega

/-- What is left after a word or a number is shorter. -/
theorem scanScalar?_length {cur after : Cursor} {value : Json}
    (h : scanScalar? cur = some (value, after)) : after.rest.length < cur.rest.length := by
  unfold scanScalar? at h
  split at h
  · rename_i word found
    have longer : word.1.length ≤ cur.rest.length := by
      have := List.find?_some found
      exact (List.isPrefixOf_iff_prefix.1 this).length_le
    have nonempty : 0 < word.1.length := by
      have := List.mem_of_find?_eq_some found
      revert this; generalize word = w; revert w; decide
    simp only [Option.some.injEq, Prod.mk.injEq] at h
    rw [← h.2, skip_length]
    omega
  · split at h
    · have := scanNumber?_length h
      rw [skip_length] at this
      omega
    · exact scanNumber?_length h

/-- What is left after a token is no longer than what followed its first character. -/
theorem nextToken_length (position : Nat) (c : Char) (rest : List Char) :
    (nextToken position c rest).2.rest.length ≤ rest.length := by
  unfold nextToken
  split <;> try simp
  · split
    · rename_i h; exact Nat.le_of_lt (scanText_length h)
    · simp
  · split
    · rename_i h
      have := scanScalar?_length h
      simp only [List.length_cons] at this
      dsimp only
      omega
    · simp

/-- The tokens of a text with their positions; the text begins at `position`. -/
def tokens (position : Nat) : List Char → List (Nat × Token)
  | [] => []
  | c :: rest =>
    if isSpace c then tokens (position + 1) rest
    else
      let next := nextToken position c rest
      (position, next.1) :: tokens next.2.position next.2.rest
termination_by cs => cs.length
decreasing_by
  · simp
  · have := nextToken_length position c rest
    simp
    omega

end SharedTables.Json
