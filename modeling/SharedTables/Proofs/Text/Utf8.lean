import SharedTables.Text.Utf8

/-! Characters written as UTF-8 are read back, whatever bytes follow. -/
namespace SharedTables.Text

theorem toNat_byte {n : Nat} (small : n < 256) : (UInt8.ofNat n).toNat = n := by
  rw [UInt8.toNat_ofNat', Nat.mod_eq_of_lt small]

/-- A byte that continues a character adds six bits. -/
theorem readTail_continuation {count bits six : Nat} {low high : UInt8} {rest : List UInt8} (few : six < 64)
    (above : low.toNat ≤ six + 128) (below : six + 128 ≤ high.toNat) :
    readTail (count + 1) low high bits (UInt8.ofNat (six + 128) :: rest) =
      readTail count 0x80 0xbf (bits * 64 + six) rest := by
  have number : (UInt8.ofNat (six + 128)).toNat = six + 128 := toNat_byte (by omega)
  have inside : low ≤ UInt8.ofNat (six + 128) ∧ UInt8.ofNat (six + 128) ≤ high := by
    rw [UInt8.le_iff_toNat_le, UInt8.le_iff_toNat_le, number]
    exact ⟨above, below⟩
  rw [readTail, if_pos inside, number, Nat.add_sub_cancel]

/-- A leading byte tells how many bytes follow, and holds the first bits. -/
theorem readChar_two {first : Nat} (notOverlong : 2 ≤ first) (few : first < 32) (rest : List UInt8) :
    readChar (UInt8.ofNat (first + 192)) rest = readTail 1 0x80 0xbf first rest := by
  have lead : ∀ n < 32, 2 ≤ n → ¬UInt8.ofNat (n + 192) < 0x80 ∧
      continuation? (UInt8.ofNat (n + 192)) = some (1, 0x80, 0xbf) ∧
        (UInt8.ofNat (n + 192)).toNat % Nat.pow 2 (6 - 1) = n := by decide
  obtain ⟨beyond, follows, bits⟩ := lead first few notOverlong
  simp only [readChar, beyond, ↓reduceIte, follows, bits]

@[inherit_doc readChar_two]
theorem readChar_three {first : Nat} (few : first < 16) (rest : List UInt8) :
    readChar (UInt8.ofNat (first + 224)) rest =
      readTail 2 (if first = 0 then 0xa0 else 0x80) (if first = 13 then 0x9f else 0xbf) first rest := by
  have lead : ∀ n < 16, ¬UInt8.ofNat (n + 224) < 0x80 ∧
      continuation? (UInt8.ofNat (n + 224)) =
        some (2, if n = 0 then 0xa0 else 0x80, if n = 13 then 0x9f else 0xbf) ∧
        (UInt8.ofNat (n + 224)).toNat % Nat.pow 2 (6 - 2) = n := by decide
  obtain ⟨beyond, follows, bits⟩ := lead first few
  simp only [readChar, beyond, ↓reduceIte, follows, bits]

@[inherit_doc readChar_two]
theorem readChar_four {first : Nat} (few : first < 5) (rest : List UInt8) :
    readChar (UInt8.ofNat (first + 240)) rest =
      readTail 3 (if first = 0 then 0x90 else 0x80) (if first = 4 then 0x8f else 0xbf) first rest := by
  have lead : ∀ n < 5, ¬UInt8.ofNat (n + 240) < 0x80 ∧
      continuation? (UInt8.ofNat (n + 240)) =
        some (3, if n = 0 then 0x90 else 0x80, if n = 4 then 0x8f else 0xbf) ∧
        (UInt8.ofNat (n + 240)).toNat % Nat.pow 2 (6 - 3) = n := by decide
  obtain ⟨beyond, follows, bits⟩ := lead first few
  simp only [readChar, beyond, ↓reduceIte, follows, bits]

/-- The first byte of a character and those after it, read back. -/
theorem readChar_utf8EncodeChar (c : Char) (rest : List UInt8) : ∃ lead tail,
    String.utf8EncodeChar c = lead :: tail ∧ readChar lead (tail ++ rest) = (some c, rest) := by
  have valid : c.toNat < 0xd800 ∨ 0xdfff < c.toNat ∧ c.toNat < 0x110000 := c.valid
  have same : Char.ofNat c.toNat = c := c.ofNat_toNat
  unfold String.utf8EncodeChar
  rw [show c.val.toNat = c.toNat from rfl]
  generalize c.toNat = n at valid same
  simp only
  split
  · have number : (UInt8.ofNat n).toNat = n := toNat_byte (by omega)
    have ascii : UInt8.ofNat n < 0x80 := by
      rw [UInt8.lt_iff_toNat_lt, number]
      exact Nat.lt_succ_of_le ‹_›
    exact ⟨_, _, rfl, by simp only [readChar, ascii, ↓reduceIte, number, same, List.nil_append]⟩
  split
  · have bits : n / 64 % 32 * 64 + n % 64 = n := by omega
    refine ⟨_, _, rfl, ?_⟩
    rw [readChar_two (by omega) (by omega), List.cons_append,
      readTail_continuation (by omega) (by simp) (by simp; omega), bits, readTail, same]
    rfl
  split
  · have bits : (n / 4096 % 16 * 64 + n / 64 % 64) * 64 + n % 64 = n := by omega
    refine ⟨_, _, rfl, ?_⟩
    rw [readChar_three (by omega), List.cons_append, readTail_continuation (by omega)
        (by split <;> simp; omega) (by split <;> simp <;> omega),
      List.cons_append, readTail_continuation (by omega) (by simp) (by simp; omega), bits, readTail, same]
    rfl
  · have bits : ((n / 262144 % 8 * 64 + n / 4096 % 64) * 64 + n / 64 % 64) * 64 + n % 64 = n := by omega
    refine ⟨_, _, rfl, ?_⟩
    rw [readChar_four (by omega), List.cons_append, readTail_continuation (by omega)
        (by split <;> simp; omega) (by split <;> simp <;> omega),
      List.cons_append, readTail_continuation (by omega) (by simp) (by simp; omega),
      List.cons_append, readTail_continuation (by omega) (by simp) (by simp; omega), bits, readTail, same]
    rfl

/-- Text written as UTF-8 is read back. -/
theorem utf8Repaired_encoded (cs : List Char) : utf8Repaired (cs.flatMap String.utf8EncodeChar) = cs := by
  induction cs with
  | nil => simp [utf8Repaired]
  | cons c cs ih =>
    obtain ⟨lead, tail, bytes, read⟩ := readChar_utf8EncodeChar c (cs.flatMap String.utf8EncodeChar)
    rw [List.flatMap_cons, bytes, List.cons_append, utf8Repaired, read, ih]
    rfl

end SharedTables.Text
