import SharedTables.Number.Digits
import SharedTables.Proofs.Text.Codes

/-! The text of an integer is read back as the integer. -/
namespace SharedTables

/-- What is true of the ten digits is true of every digit of the common script. -/
theorem forall_digit {P : Char → Prop} (all : ∀ d < 10, P (Char.ofNat (48 + d))) {c : Char}
    (digit : c.isDigit = true) : P c := by
  obtain ⟨above, below⟩ : 48 ≤ c.toNat ∧ c.toNat ≤ 57 := by simpa [Char.isDigit, UInt32.le_iff_toNat_le] using digit
  have known := all (c.toNat - 48) (by omega)
  rwa [show 48 + (c.toNat - 48) = c.toNat by omega, Char.ofNat_toNat] at known

theorem digitValue?_digit {c : Char} (digit : c.isDigit = true) :
    Text.digitValue? c = some (c.toNat - '0'.toNat) :=
  forall_digit (P := fun c => Text.digitValue? c = some (c.toNat - '0'.toNat)) (by decide) digit

theorem groupedDigits?_digits {cs : List Char} (some_digit : cs ≠ []) (digits : ∀ c ∈ cs, c.isDigit = true) :
    groupedDigits? cs = some (cs.map fun c => c.toNat - '0'.toNat) := by
  induction cs with
  | nil => exact absurd rfl some_digit
  | cons c cs ih =>
    obtain ⟨digit, digits⟩ := List.forall_mem_cons.mp digits
    have value := digitValue?_digit digit
    cases cs with
    | nil => simp [groupedDigits?, value]
    | cons next cs =>
      have ungrouped : ∀ rest, next :: cs ≠ '_' :: rest := by
        intro rest same
        exact absurd (digits next List.mem_cons_self) (by rw [(List.cons.inj same).1]; decide)
      rw [groupedDigits?, value, ih (List.cons_ne_nil _ _) digits]
      · rfl
      · simp
      · exact ungrouped

theorem ofDigits_toDigits (n : Nat) :
    ofDigits ((Nat.toDigits 10 n).map fun c => c.toNat - '0'.toNat) = n := by
  rw [ofDigits, List.foldl_map]
  exact Nat.ofDigitChars_ten_toDigits

/-- Characters of which none is blank are not trimmed. -/
theorem trimNumber_eq {cs : List Char} (dense : ∀ c ∈ cs, isNumberBlank c = false) : trimNumber cs = cs := by
  have kept (cs : List Char) (dense : ∀ c ∈ cs, isNumberBlank c = false) : cs.dropWhile isNumberBlank = cs := by
    cases cs with
    | nil => rfl
    | cons c cs => exact List.dropWhile_cons_of_neg (by simp [dense c List.mem_cons_self])
  rw [trimNumber, kept cs dense, kept cs.reverse (fun c member => dense c (List.mem_reverse.mp member)),
    List.reverse_reverse]

/-- A printed integer is read back. -/
theorem readInt?_toString (n : Int) : readInt? (toString n) = some n := by
  have blank : isNumberBlank '-' = false := by decide
  have dense : ∀ c ∈ (toString n).toList, isNumberBlank c = false := by
    intro c member
    obtain digit | rfl := Text.int_text_chars member
    · exact forall_digit (P := fun c => isNumberBlank c = false) (by decide) digit
    · exact blank
  have decimal (m : Nat) : (toString m).toList = Nat.toDigits 10 m := by
    rw [Nat.toString_eq_repr, Nat.toList_repr]
  have read (m : Nat) : groupedDigits? (toString m).toList =
      some ((Nat.toDigits 10 m).map fun c => c.toNat - '0'.toNat) := by
    rw [groupedDigits?_digits (by rw [decimal]; exact Nat.toDigits_ne_nil)
      (fun c member => Text.nat_text_digits member), decimal]
  rw [readInt?, trimNumber_eq dense]
  obtain ⟨m, rfl, text⟩ | ⟨m, rfl, text⟩ := Text.int_text n
  · have unsigned : splitSign (toString m).toList = (false, (toString m).toList) := by
      unfold splitSign
      split
      · rename_i rest same
        exact absurd (Text.nat_text_digits (same ▸ List.mem_cons_self)) (by decide)
      · rename_i rest same
        exact absurd (Text.nat_text_digits (same ▸ List.mem_cons_self)) (by decide)
      · rfl
    simp only [signedDigits?, text, unsigned, read, Option.map_some, ofDigits_toDigits, signedInt]
    rfl
  · simp only [signedDigits?, text, splitSign, read, Option.map_some, ofDigits_toDigits, signedInt]
    rfl

end SharedTables
