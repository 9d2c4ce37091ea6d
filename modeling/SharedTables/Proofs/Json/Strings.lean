import SharedTables.Json.Printer
import SharedTables.Json.Token
import SharedTables.Proofs.Text.Codes

/-! Strings in JSON text. The reader finds a printed string again, whatever
follows its closing quote, so printed strings can be told apart. -/
namespace SharedTables.Json

/-- A unit below the halves is not the first of a pair. -/
theorem secondHalf?_eq_none {unit : Nat} (low : unit < 0xd800) (cs : List Char) :
    secondHalf? unit cs = none := by
  have single (other : Nat) : Text.pairChar? unit other = none := if_neg fun pair => by omega
  unfold secondHalf?
  split
  · exact Option.bind_eq_none_iff.mpr fun other _ => single other
  · rfl

/-- A control character is read back from its four digits. -/
theorem fourHex?_hexFixed {n : Nat} (control : n < 0x20) :
    ∃ a b c d, Text.hexFixed 4 n = [a, b, c, d] ∧ fourHex? a b c d = some n := by
  have readBack : ∀ n < 0x20, fourHex? (Text.hexDigit (n / 16 / 16 / 16 % 16))
      (Text.hexDigit (n / 16 / 16 % 16)) (Text.hexDigit (n / 16 % 16)) (Text.hexDigit (n % 16)) = some n := by
    decide +kernel
  exact ⟨_, _, _, _, rfl, readBack n control⟩

attribute [local simp] scanText

variable {start position : Nat} {seen rest : List Char} {c e : Char}

/-- An escape of one letter is read as its character. -/
theorem scanText_letter {letter : Char} (known : escaped? letter = some c) :
    scanText start position seen ('\\' :: letter :: rest) =
      scanText start (position + 2) (c :: seen) rest := by
  have other : letter ≠ 'u' := by
    rintro rfl
    simp [escaped?] at known
  rw [scanText]
  · simp only [known]
  · exact fun _ _ _ _ _ _ same _ => other same
  · exact other

/-- An escape of four digits is read as its character, unless it may be half
of a pair. -/
theorem scanText_digits {a b c d : Char} {unit : Nat} (known : fourHex? a b c d = some unit)
    (low : unit < 0xd800) : scanText start position seen ('\\' :: 'u' :: a :: b :: c :: d :: e :: rest) =
      scanText start (position + 6) (Char.ofNat unit :: seen) (e :: rest) := by
  have single : Text.unitChar unit = Char.ofNat unit := if_neg (by simp [Text.isHalf]; omega)
  rw [scanText]
  simp only [known, secondHalf?_eq_none low, single]

/-- Any other character stands for itself. -/
theorem scanText_plain (quote : c ≠ '"') (backslash : c ≠ '\\') (printable : 0x1f < c.toNat) :
    scanText start position seen (c :: rest) = scanText start (position + 1) (c :: seen) rest := by
  rw [scanText]
  · exact if_neg (Nat.not_le.mpr printable)
  · exact quote
  · exact fun _ _ _ _ _ _ same _ => backslash same
  · exact fun _ same _ => backslash same
  · exact fun _ _ same _ => backslash same
  · exact fun same _ => backslash same

/-- A printed character is read back. At least the closing quote follows it. -/
theorem scanText_escapeChar (start position : Nat) (seen : List Char) (c e : Char) (rest : List Char) :
    ∃ position', scanText start position seen (escapeChar c ++ e :: rest) =
      scanText start position' (c :: seen) (e :: rest) := by
  unfold escapeChar
  split
  case h_8 quote backslash _ _ _ _ _ =>
    split
    · rename_i control
      obtain ⟨a, b, d, f, digits, known⟩ := fourHex?_hexFixed control
      rw [digits, ← Char.ofNat_toNat c]
      exact ⟨_, scanText_digits known (by omega)⟩
    · rename_i printable
      exact ⟨_, scanText_plain quote backslash (by omega)⟩
  all_goals exact ⟨_, scanText_letter rfl⟩

/-- A printed string is read back up to its closing quote. -/
theorem scanText_escaped (start position : Nat) (seen cs rest : List Char) :
    ∃ position', scanText start position seen (cs.flatMap escapeChar ++ '"' :: rest) =
      .done (seen.reverse ++ cs) position' rest := by
  induction cs generalizing position seen with
  | nil => exact ⟨position + 1, by simp [scanText]⟩
  | cons c cs ih =>
    obtain ⟨e, tail, follows⟩ : ∃ e tail, cs.flatMap escapeChar ++ '"' :: rest = e :: tail :=
      List.exists_cons_of_ne_nil (by simp)
    obtain ⟨next, head⟩ := scanText_escapeChar start position seen c e tail
    obtain ⟨position', read⟩ := ih next (c :: seen)
    refine ⟨position', ?_⟩
    rw [List.flatMap_cons, List.append_assoc, follows, head, ← follows, read]
    simp

/-- A printed string can be told apart from whatever follows it. -/
theorem stringText_selfDelimiting : SelfDelimiting fun s => String.ofList (stringChars s) := by
  intro s t rest rest' same
  have bodies : s.toList.flatMap escapeChar ++ '"' :: rest = t.toList.flatMap escapeChar ++ '"' :: rest' := by
    simpa [stringChars] using same
  obtain ⟨_, read⟩ := scanText_escaped 0 0 [] s.toList rest
  obtain ⟨_, read'⟩ := scanText_escaped 0 0 [] t.toList rest'
  rw [bodies, read'] at read
  obtain ⟨texts, -, rests⟩ := Scan.done.inj read
  exact ⟨String.toList_inj.mp (by simpa using texts.symm), rests.symm⟩

end SharedTables.Json
