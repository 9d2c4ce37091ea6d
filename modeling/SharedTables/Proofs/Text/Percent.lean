import SharedTables.Proofs.Text.Utf8
import SharedTables.Text.Percent

/-! Percent coding can be undone, and a coded segment holds no slash. -/
namespace SharedTables.Text

theorem hexValue?_hexCapital {n : Nat} (digit : n < 16) : hexValue? (hexCapital n) = some n := by
  have all : ∀ n < 16, hexValue? (hexCapital n) = some n := by decide
  exact all n digit

/-- What is true of all numbers below 256 is true of all bytes. -/
theorem forall_byte {P : UInt8 → Prop} (all : ∀ n < 256, P (UInt8.ofNat n)) (b : UInt8) : P b := by
  have known := all b.toNat b.toNat_lt
  rwa [UInt8.ofNat_toNat] at known

/-- An unreserved character is no percent sign and stands for its own byte. -/
theorem unreserved_byte (b : UInt8) :
    (b < 0x80 && isUnreserved (Char.ofNat b.toNat)) = true →
      Char.ofNat b.toNat ≠ '%' ∧ String.utf8EncodeChar (Char.ofNat b.toNat) = [b] := by
  revert b
  exact forall_byte (by decide +kernel)

theorem percentBytes_percentByte (b : UInt8) (rest : List Char) :
    percentBytes (percentByte b ++ rest) = b :: percentBytes rest := by
  by_cases plain : (b < 0x80 && isUnreserved (Char.ofNat b.toNat)) = true
  · obtain ⟨noPercent, own⟩ := unreserved_byte b plain
    simp only [percentByte, plain, ↓reduceIte, List.cons_append, List.nil_append]
    rw [percentBytes, own]
    · rfl
    · exact fun _ _ _ same _ => noPercent same
  · have below := b.toNat_lt
    have whole : 16 * (b.toNat / 16) + b.toNat % 16 = b.toNat := Nat.div_add_mod b.toNat 16
    simp only [percentByte, plain, Bool.false_eq_true, ↓reduceIte, List.cons_append, List.nil_append]
    rw [percentBytes, hexValue?_hexCapital (by omega), hexValue?_hexCapital (by omega)]
    simp only [whole, UInt8.ofNat_toNat]

theorem percentBytes_coded (bytes : List UInt8) : percentBytes (bytes.flatMap percentByte) = bytes := by
  induction bytes with
  | nil => rfl
  | cons b bytes ih => rw [List.flatMap_cons, percentBytes_percentByte, ih]

/-- A coded segment is decoded to the text that it was coded from. -/
theorem percentDecode_percentEncode (s : String) : percentDecode (percentEncode s) = s := by
  rw [percentDecode, percentEncode, String.toList_ofList, percentChars, percentBytes_coded,
    utf8Repaired_encoded, String.ofList_toList]

/-- No coded segment holds a slash. -/
theorem slash_not_mem_percentEncode (s : String) : '/' ∉ (percentEncode s).toList := by
  have byte (b : UInt8) : '/' ∉ percentByte b := by
    revert b
    exact forall_byte (by decide +kernel)
  rw [percentEncode, String.toList_ofList, percentChars, List.mem_flatMap]
  rintro ⟨b, -, member⟩
  exact byte b member

/-- The segment of a text that is not empty is not empty. -/
theorem percentEncode_ne_nil {s : String} (named : s ≠ "") : (percentEncode s).toList ≠ [] := by
  intro empty
  have decoded := percentDecode_percentEncode s
  rw [percentDecode, empty] at decoded
  exact named (decoded.symm.trans (by simp [percentBytes, utf8Repaired]))

theorem percentBytes_ne_nil {cs : List Char} (coded : cs ≠ []) : percentBytes cs ≠ [] := by
  fun_cases percentBytes cs with
  | case1 => exact absurd rfl coded
  | case2 | case3 => exact List.cons_ne_nil _ _
  | case4 c rest =>
    obtain ⟨lead, tail, bytes, -⟩ := readChar_utf8EncodeChar c []
    simp [bytes]

/-- Every segment that is not empty stands for some text, if only for a
replacement character. -/
theorem percentDecode_ne_empty {s : String} (coded : s ≠ "") : percentDecode s ≠ "" := by
  have chars : s.toList ≠ [] := fun empty => coded (String.toList_inj.mp empty)
  intro empty
  have decoded := congrArg String.toList empty
  cases bytes : percentBytes s.toList with
  | nil => exact percentBytes_ne_nil chars bytes
  | cons lead rest => simp [percentDecode, bytes, utf8Repaired] at decoded

end SharedTables.Text
