import SharedTables.Json.Reader
import SharedTables.Proofs.Json.Lexemes

/-! White space in JSON text. The value of a text is the value of the same text
with the white space between its tokens left out, so two texts that agree but
for white space have one value. -/
namespace SharedTables.Json

/-- A text without the white space outside its strings. The flag says whether
the characters are those of a string. -/
def withoutSpace : Bool → List Char → List Char
  | _, [] => []
  | false, c :: rest => if isSpace c then withoutSpace false rest else c :: withoutSpace (c = '"') rest
  | true, '\\' :: c :: rest => '\\' :: c :: withoutSpace true rest
  | true, c :: rest => c :: withoutSpace (c ≠ '"') rest

/-- Solid characters are kept. -/
theorem withoutSpace_solid {cs : List Char} (solid : ∀ c ∈ cs, isSolid c = true) (rest : List Char) :
    withoutSpace false (cs ++ rest) = cs ++ withoutSpace false rest := by
  induction cs with
  | nil => rfl
  | cons c cs ih =>
    obtain ⟨this, others⟩ := List.forall_mem_cons.mp solid
    obtain ⟨notSpace, notQuote⟩ : isSpace c = false ∧ c ≠ '"' := by simpa [isSolid] using this
    rw [List.cons_append, withoutSpace, if_neg (by simp [notSpace]), decide_eq_false notQuote, ih others]
    rfl

/-- A string is kept up to its closing quote. -/
theorem withoutSpace_text {body : List Char} (isBody : TextBody body) (rest : List Char) :
    withoutSpace true (body ++ rest) = body ++ withoutSpace false rest := by
  induction isBody with
  | close => simp [withoutSpace]
  | plain quote backslash _ ih => simp [withoutSpace, quote, backslash, ih]
  | escape _ ih => simp [withoutSpace, ih]

/-- What is left does not begin with white space. -/
theorem withoutSpace_begins (cs : List Char) : Begins (!isSpace ·) (withoutSpace false cs) := by
  induction cs with
  | nil => exact .nil _
  | cons c cs ih =>
    rw [withoutSpace]
    split
    · exact ih
    · rename_i solid
      exact begins_cons.mpr (by simpa using solid)

/-- Characters that are a token: they stay when white space goes, and they are
read as the token wherever they stand. Only a number or a word needs something
after it that may follow a value. -/
structure Lexeme (c : Char) (body : List Char) (token : Token) : Prop where
  kept : ∀ rest, withoutSpace false (c :: (body ++ rest)) = c :: (body ++ withoutSpace false rest)
  again : ∀ position rest, ((∃ value, token = .scalar value) → Begins isClosing rest) →
    ∃ after, nextToken position c (body ++ rest) = (token, ⟨after, rest⟩)

theorem Lexeme.mark {c : Char} {token : Token} (solid : isSolid c = true)
    (single : ∀ position rest, nextToken position c rest = (token, ⟨position + 1, rest⟩)) :
    Lexeme c [] token where
  kept rest := by
    have kept : ∀ d ∈ [c], isSolid d = true := by simpa using solid
    exact withoutSpace_solid kept rest
  again position rest _ := ⟨position + 1, single position rest⟩

theorem Lexeme.text {start position after : Nat} {cs value rest : List Char}
    (scanned : scanText start position [] cs = .done value after rest) :
    ∃ body, cs = body ++ rest ∧ Lexeme '"' body (.text (String.ofList value)) := by
  obtain ⟨body, split, isBody, again⟩ := takes_text scanned
  refine ⟨body, split, ⟨fun rest' => ?_, fun position' rest' _ => ?_⟩⟩
  · simp [withoutSpace, isSpace, withoutSpace_text isBody]
  · obtain ⟨after', read⟩ := again position' (position' + 1) rest'
    exact ⟨after', by simp only [nextToken, read]⟩

theorem Lexeme.scalar {position : Nat} {c : Char} {rest : List Char} {value : Json} {after : Cursor}
    (next : ∀ position rest value after, scanScalar? ⟨position, c :: rest⟩ = some (value, after) →
      nextToken position c rest = (.scalar value, after))
    (scanned : scanScalar? ⟨position, c :: rest⟩ = some (value, after)) :
    ∃ body, rest = body ++ after.rest ∧ Lexeme c body (.scalar value) := by
  obtain ⟨taken, split, solid, again⟩ := takes_scalar scanned
  obtain ⟨body, rfl⟩ : ∃ body, taken = c :: body := by
    cases taken with
    | nil =>
      have shorter := scanScalar?_length scanned
      rw [split] at shorter
      exact absurd shorter (Nat.lt_irrefl _)
    | cons d body => exact ⟨body, by rw [(List.cons.inj split).1]⟩
  refine ⟨body, (List.cons.inj split).2, ⟨withoutSpace_solid solid, fun position' rest' closing => ?_⟩⟩
  obtain ⟨after', read⟩ := again position' rest' (closing ⟨_, rfl⟩)
  exact ⟨after', next _ _ _ _ read⟩

/-- A token that is read stands at the front of the text. -/
theorem exists_lexeme {position : Nat} {c : Char} {rest : List Char} {token : Token} {after : Cursor}
    (next : nextToken position c rest = (token, after))
    (unbroken : ∀ problem place, token ≠ .broken problem place) (known : token ≠ .stray) :
    ∃ body, rest = body ++ after.rest ∧ Lexeme c body token := by
  unfold nextToken at next
  split at next
  case h_7 =>
    split at next <;> obtain ⟨rfl, rfl⟩ := Prod.mk.inj next
    · exact Lexeme.text ‹_›
    · exact absurd rfl (unbroken _ _)
  case h_8 brace brace' bracket bracket' comma colon quote =>
    split at next <;> obtain ⟨rfl, rfl⟩ := Prod.mk.inj next
    · refine Lexeme.scalar (fun position rest value after scanned => ?_) ‹_›
      unfold nextToken
      split <;> first | contradiction | simp only [scanned]
    · exact absurd rfl known
  all_goals
    obtain ⟨rfl, rfl⟩ := Prod.mk.inj next
    exact ⟨[], rfl, .mark (by decide) fun _ _ => rfl⟩

/-- The reader goes on after no token that is broken or unknown. -/
theorem Reading.step_ok {state next : Reading} {token : Token} (step : state.step token = .ok next) :
    (∀ problem place, token ≠ .broken problem place) ∧ token ≠ .stray := by
  constructor
  · rintro problem place rfl
    obtain ⟨opened, expected⟩ := state
    cases expected <;> cases step
  · rintro rfl
    obtain ⟨opened, expected⟩ := state
    cases expected <;> cases step

/-- After a number or a word its value is delivered. -/
theorem Reading.step_scalar {state next : Reading} {value : Json} (step : state.step (.scalar value) = .ok next) :
    ∃ opened, next = deliver value opened := by
  obtain ⟨opened, expected⟩ := state
  cases expected <;> cases step <;> exact ⟨_, rfl⟩

/-- After a value the reader goes on at a comma or at a closing mark only. -/
theorem step_deliver {value : Json} {opened : List Open} {token : Token} {next : Reading}
    (step : (deliver value opened).step token = .ok next) :
    token = .comma ∨ token = .closeArray ∨ token = .closeObject := by
  match opened with
  | [] => cases step
  | .array _ :: _ | .object _ _ :: _ => cases token <;> first | cases step; done | simp

theorem isClosing_of_token {position : Nat} {c : Char} {rest : List Char}
    (mark : (nextToken position c rest).1 = .comma ∨ (nextToken position c rest).1 = .closeArray ∨
      (nextToken position c rest).1 = .closeObject) : isClosing c = true := by
  unfold nextToken at mark
  split at mark
  case h_7 | h_8 => split at mark <;> simp at mark
  all_goals first | rfl | simp at mark

/-- What a text goes on with after a value. -/
theorem closing_of_read {length position : Nat} {value result : Json} {opened : List Open} {cs : List Char}
    (solid : Begins (!isSpace ·) cs)
    (read : readTokens length (deliver value opened) (tokens position cs) = .ok result) : Begins isClosing cs := by
  cases cs with
  | nil => exact .nil _
  | cons c rest =>
    have notSpace : isSpace c = false := by simpa using begins_cons.mp solid
    rw [tokens, if_neg (by simp [notSpace]), readTokens] at read
    split at read
    · rename_i step
      exact begins_cons.mpr (isClosing_of_token (step_deliver step))
    · cases read

/-- Leaving out the white space between tokens leaves what is read unchanged. -/
theorem readTokens_withoutSpace {length position : Nat} {state : Reading} {cs : List Char} {value : Json}
    (read : readTokens length state (tokens position cs) = .ok value) (length' position' : Nat) :
    readTokens length' state (tokens position' (withoutSpace false cs)) = .ok value := by
  fun_induction tokens position cs generalizing state length' position' with
  | case1 =>
    rw [withoutSpace, tokens]
    unfold readTokens at read ⊢
    split at read <;> first | exact read | cases read
  | case2 position c rest space ih =>
    rw [withoutSpace, if_pos space]
    exact ih read length' position'
  | case3 position c rest solid pair =>
    rename_i ih
    have next : nextToken position c rest = (pair.1, pair.2) := rfl
    clear_value pair
    obtain ⟨token, after⟩ := pair
    rw [readTokens] at read
    split at read
    case h_2 => cases read
    rename_i state' step
    obtain ⟨unbroken, known⟩ := Reading.step_ok step
    obtain ⟨body, rfl, lexeme⟩ := exists_lexeme next unbroken known
    -- where a number ends is decided by what follows it, and that the reader has gone on to read
    have closing : (∃ scalar, token = .scalar scalar) → Begins isClosing (withoutSpace false after.rest) := by
      rintro ⟨scalar, rfl⟩
      obtain ⟨opened, rfl⟩ := Reading.step_scalar step
      exact closing_of_read (withoutSpace_begins _) (ih read 0 0)
    obtain ⟨place, again⟩ := lexeme.again position' _ closing
    rw [lexeme.kept, tokens, if_neg solid, again]
    simp only [readTokens, step]
    exact ih read length' place

/-- No token begins with a byte order mark. -/
theorem nextToken_byteOrderMark (position : Nat) (rest : List Char) :
    (nextToken position '\ufeff' rest).1 = .stray := by
  have none : scanScalar? ⟨position, '\ufeff' :: rest⟩ = none := rfl
  simp [nextToken, none]

/-- The value of a text is the value of the text without the white space
between its tokens. -/
theorem read_withoutSpace {s : String} {value : Json} (accepted : read s = .ok value) :
    read (String.ofList (withoutSpace false s.toList)) = .ok value := by
  have chars : readChars (withoutSpace false s.toList) = .ok value := by
    unfold read at accepted
    split at accepted
    · cases accepted
    · exact readTokens_withoutSpace accepted _ _
  rw [read, String.toList_ofList]
  split
  · rename_i rest mark
    rw [readChars, mark, tokens, if_neg (by decide), readTokens, nextToken_byteOrderMark] at chars
    cases chars
  · exact chars

/-- Two texts that agree but for white space have one value. -/
theorem read_eq_of_withoutSpace {s s' : String} {value value' : Json} (accepted : read s = .ok value)
    (accepted' : read s' = .ok value')
    (same : withoutSpace false s.toList = withoutSpace false s'.toList) : value = value' := by
  have value_read := read_withoutSpace accepted
  rw [same, read_withoutSpace accepted'] at value_read
  exact (Except.ok.inj value_read).symm

end SharedTables.Json
