import SharedTables.Json.Reader
import SharedTables.Proofs.Json.Strings

/-! Reading a text piece by piece. What the reader makes of a text follows from
what it makes of the pieces that the text is put together from, wherever they
stand and whatever comes after them. -/
namespace SharedTables.Json

/-- Some characters take the reader from one state to another. -/
def Reads (before : Reading) (cs : List Char) (after : Reading) : Prop :=
  ∀ length position rest, ∃ position',
    readTokens length before (tokens position (cs ++ rest)) =
      readTokens length after (tokens position' rest)

variable {before middle after : Reading}

theorem Reads.refl (state : Reading) : Reads state [] state :=
  fun _ position _ => ⟨position, rfl⟩

theorem Reads.append (first : Reads before cs middle) (second : Reads middle cs' after) :
    Reads before (cs ++ cs') after := by
  intro length position rest
  obtain ⟨between, read⟩ := first length position (cs' ++ rest)
  obtain ⟨position', read'⟩ := second length between rest
  refine ⟨position', ?_⟩
  rw [List.append_assoc, read, read']

/-- The token that a single character is. -/
def markToken? : Char → Option Token
  | '\x7b' => some .openObject
  | '\x7d' => some .closeObject
  | '[' => some .openArray
  | ']' => some .closeArray
  | ',' => some .comma
  | ':' => some .colon
  | _ => none

theorem nextToken_mark {c : Char} {token : Token} (mark : markToken? c = some token) :
    isSpace c = false ∧ ∀ position rest, nextToken position c rest = (token, ⟨position + 1, rest⟩) := by
  unfold markToken? at mark
  split at mark <;> cases mark <;> exact ⟨by decide, fun _ _ => rfl⟩

theorem Reads.mark {c : Char} {token : Token} (mark : markToken? c = some token)
    (step : before.step token = .ok after) : Reads before [c] after := by
  intro length position rest
  obtain ⟨solid, single⟩ := nextToken_mark mark
  refine ⟨position + 1, ?_⟩
  rw [List.singleton_append, tokens]
  simp only [solid, Bool.false_eq_true, ↓reduceIte, single, readTokens, step]

/-- A printed string is one token. -/
theorem Reads.string {s : String} (step : before.step (.text s) = .ok after) :
    Reads before (stringChars s) after := by
  intro length position rest
  obtain ⟨position', scanned⟩ := scanText_escaped position (position + 1) [] s.toList rest
  have token : nextToken position '"' (s.toList.flatMap escapeChar ++ '"' :: rest) =
      (.text s, ⟨position', rest⟩) := by
    simp [nextToken, scanned]
  have solid : isSpace '"' = false := by decide
  have chars : stringChars s ++ rest = '"' :: (s.toList.flatMap escapeChar ++ '"' :: rest) := by
    simp [stringChars]
  refine ⟨position', ?_⟩
  rw [chars, tokens]
  simp only [solid, Bool.false_eq_true, ↓reduceIte, token, readTokens, step]

/-- Characters that take the reader through a whole value are read as it. -/
theorem Reads.whole (reads : Reads ⟨[], .value⟩ cs ⟨[], .nothing value⟩) : readChars cs = .ok value := by
  obtain ⟨position', read⟩ := reads cs.length 0 []
  rw [List.append_nil] at read
  rw [readChars, read, tokens]
  rfl

end SharedTables.Json
