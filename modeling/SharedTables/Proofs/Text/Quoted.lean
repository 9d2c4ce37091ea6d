import SharedTables.Proofs.Text.Percent
import SharedTables.Text.Quoted

/-! Bytes between quotes can be read back: what stands for one byte is told
apart from what follows it, and the quote is the first character. -/
namespace SharedTables.Text

/-- How one byte may be written: as a character, as a backslash and a
character, or as a backslash, an `x` and two digits. -/
def byteShape : List Char → Bool
  | [c] => c ≠ '\\'
  | ['\\', c] => c ≠ 'x'
  | ['\\', 'x', _, _] => true
  | _ => false

/-- The byte that is written by some characters. -/
def writtenByte : List Char → Nat
  | ['\\', 'x', high, low] => 16 * (hexValue? high).getD 0 + (hexValue? low).getD 0
  | ['\\', 't'] => 9
  | ['\\', 'n'] => 10
  | ['\\', 'r'] => 13
  | ['\\', c] => c.toNat
  | [c] => c.toNat
  | _ => 0

theorem quotedByte_shape {quote : Char} (known : quote = '\'' ∨ quote = '"') (b : UInt8) :
    byteShape (quotedByte quote b) = true ∧ writtenByte (quotedByte quote b) = b.toNat := by
  revert b
  rcases known with rfl | rfl <;> exact forall_byte (by decide +kernel)

/-- Two ways to write a byte, whatever follows them, are one if what is written is. -/
theorem byteShape_inj {code code' : List Char} (shape : byteShape code = true) (shape' : byteShape code' = true)
    (same : code ++ rest = code' ++ rest') : code = code' ∧ rest = rest' := by
  unfold byteShape at shape shape'
  split at shape <;> split at shape' <;> grind

theorem quotedBytes_inj {quote : Char} (known : quote = '\'' ∨ quote = '"') {bytes bytes' : List UInt8}
    (same : bytes.flatMap (quotedByte quote) = bytes'.flatMap (quotedByte quote)) : bytes = bytes' := by
  induction bytes generalizing bytes' with
  | nil =>
    cases bytes' with
    | nil => rfl
    | cons b' bytes' =>
      have shape := (quotedByte_shape known b').1
      simp [List.append_eq_nil_iff.mp same.symm, byteShape] at shape
  | cons b bytes ih =>
    obtain ⟨shape, written⟩ := quotedByte_shape known b
    cases bytes' with
    | nil => simp [List.append_eq_nil_iff.mp same, byteShape] at shape
    | cons b' bytes' =>
      obtain ⟨shape', written'⟩ := quotedByte_shape known b'
      obtain ⟨codes, rests⟩ := byteShape_inj shape shape' same
      have bytesSame : b = b' := UInt8.toNat_inj.mp (by rw [← written, ← written', codes])
      rw [bytesSame, ih rests]

/-- Different bytes are quoted differently. -/
theorem quotedBytes_injective {bytes bytes' : List UInt8} (same : quotedBytes bytes = quotedBytes bytes') :
    bytes = bytes' := by
  have known (cs : List Char) : quoteFor cs = '\'' ∨ quoteFor cs = '"' := by
    unfold quoteFor
    split <;> simp
  have chars := String.ofList_inj.mp same
  simp only [List.cons_append, List.cons.injEq, true_and] at chars
  obtain ⟨quotes, bodies⟩ := chars
  rw [quotes] at bodies
  exact quotedBytes_inj (known _) (List.append_cancel_right bodies)

end SharedTables.Text
