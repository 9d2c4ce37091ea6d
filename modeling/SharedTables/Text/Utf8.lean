/-! Bytes read as UTF-8. A reader either refuses bytes that are not UTF-8 or puts one replacement
character in the place of each longest start of a character that is not completed. -/
namespace SharedTables.Text

/-- The bytes that may follow a leading byte: how many there are and the range of the first of
them, which leaves out overlong forms, surrogates and numbers past the last character. -/
def continuation? (lead : UInt8) : Option (Nat × UInt8 × UInt8) :=
  if lead < 0xc2 then none
  else if lead < 0xe0 then some (1, 0x80, 0xbf)
  else if lead = 0xe0 then some (2, 0xa0, 0xbf)
  else if lead = 0xed then some (2, 0x80, 0x9f)
  else if lead < 0xf0 then some (2, 0x80, 0xbf)
  else if lead = 0xf0 then some (3, 0x90, 0xbf)
  else if lead < 0xf4 then some (3, 0x80, 0xbf)
  else if lead = 0xf4 then some (3, 0x80, 0x8f)
  else none

/-- Reads the remaining `count` bytes of a character whose leading bits are `bits`; the next byte
lies between `low` and `high`. Gives the character, if complete, and the bytes not consumed. -/
def readTail : Nat → UInt8 → UInt8 → Nat → List UInt8 → Option Char × List UInt8
  | 0, _, _, bits, rest => (some (Char.ofNat bits), rest)
  | _ + 1, _, _, _, [] => (none, [])
  | count + 1, low, high, bits, b :: rest =>
    if low ≤ b ∧ b ≤ high then readTail count 0x80 0xbf (bits * 64 + (b.toNat - 0x80)) rest
    else (none, b :: rest)

/-- Reads one character. -/
def readChar (lead : UInt8) (rest : List UInt8) : Option Char × List UInt8 :=
  if lead < 0x80 then (some (Char.ofNat lead.toNat), rest)
  else
    match continuation? lead with
    | none => (none, rest)
    | some (count, low, high) =>
      readTail count low high (lead.toNat % Nat.pow 2 (6 - count)) rest

theorem readTail_length (count : Nat) (low high : UInt8) (bits : Nat) (rest : List UInt8) :
    (readTail count low high bits rest).2.length ≤ rest.length := by
  induction count generalizing low high bits rest with
  | zero => simp [readTail]
  | succ count ih =>
    cases rest with
    | nil => simp [readTail]
    | cons b rest =>
      rw [readTail]
      split
      · exact Nat.le_trans (ih _ _ _ _) (by simp)
      · simp

theorem readChar_length (lead : UInt8) (rest : List UInt8) :
    (readChar lead rest).2.length ≤ rest.length := by
  unfold readChar
  split
  · simp
  · split
    · simp
    · exact readTail_length _ _ _ _ _

/-- The characters of UTF-8 bytes; `none` when the bytes are not UTF-8. -/
def utf8Chars? : List UInt8 → Option (List Char)
  | [] => some []
  | lead :: rest =>
    match _read : readChar lead rest with
    | (some c, rest') => (utf8Chars? rest').map (c :: ·)
    | (none, _) => none
termination_by bytes => bytes.length
decreasing_by
  have shorter := readChar_length lead rest
  rw [‹readChar lead rest = _›] at shorter
  exact Nat.lt_succ_of_le shorter

/-- The characters of bytes, with a replacement character for what is not UTF-8. -/
def utf8Repaired : List UInt8 → List Char
  | [] => []
  | lead :: rest =>
    (readChar lead rest).1.getD '\ufffd' :: utf8Repaired (readChar lead rest).2
termination_by bytes => bytes.length
decreasing_by
  exact Nat.lt_succ_of_le (readChar_length lead rest)

end SharedTables.Text
