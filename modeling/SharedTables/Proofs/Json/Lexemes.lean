import Mathlib.Data.List.TakeWhile
import SharedTables.Proofs.Json.Strings
import SharedTables.Proofs.Number.Digits

/-! The characters of a token. What a scan takes from the front of a text it
takes again wherever these characters stand, as long as what follows does not
continue them. Numbers, truth values and null are followed by nothing, by a
comma or by a closing mark; a string ends by itself. -/
namespace SharedTables.Json

/-- A character that is neither white space nor a quote. -/
def isSolid (c : Char) : Bool := !isSpace c && c != '"'

/-- A character that may follow a value. -/
def isClosing (c : Char) : Bool := c = ',' || c = ']' || c = '\x7d'

/-- All a text begins with satisfies a condition; the empty text satisfies any. -/
def Begins (condition : Char → Bool) (cs : List Char) : Prop := ∀ c ∈ cs.head?, condition c = true

theorem Begins.nil (condition : Char → Bool) : Begins condition [] := fun _ member => by cases member

theorem begins_cons {condition : Char → Bool} {c : Char} {cs : List Char} :
    Begins condition (c :: cs) ↔ condition c = true := by
  simp [Begins]

theorem Begins.append {condition : Char → Bool} {cs cs' : List Char} (first : Begins condition cs)
    (second : Begins condition cs') : Begins condition (cs ++ cs') := by
  cases cs with
  | nil => exact second
  | cons c cs => exact begins_cons.mpr (begins_cons.mp first)

theorem Begins.mono {condition condition' : Char → Bool} {cs : List Char} (begins : Begins condition cs)
    (weaker : ∀ c, condition c = true → condition' c = true) : Begins condition' cs :=
  fun c member => weaker c (begins c member)

/-- A text begins with a character, or it does not. -/
theorem begins_with_or (d : Char) (cs : List Char) : (∃ rest, cs = d :: rest) ∨ Begins (· != d) cs := by
  cases cs with
  | nil => exact .inr (.nil _)
  | cons c rest =>
    by_cases same : c = d
    · exact .inl ⟨rest, by rw [same]⟩
    · exact .inr (begins_cons.mpr (bne_iff_ne.mpr same))

/-- A scan takes some characters off the front of a text. It takes them again
in front of any text that begins as `stops` says. -/
structure Takes {α : Type} (scan : Cursor → α × Cursor) (cur : Cursor) (stops : Char → Bool)
    (taken : List Char) : Prop where
  split : cur.rest = taken ++ (scan cur).2.rest
  solid : ∀ c ∈ taken, isSolid c = true
  again : ∀ position rest, Begins stops rest →
    ∃ position', scan ⟨position, taken ++ rest⟩ = ((scan cur).1, ⟨position', rest⟩)

/-- A scan that takes nothing. -/
theorem Takes.nothing {α : Type} {scan : Cursor → α × Cursor} {cur : Cursor} {stops : Char → Bool} {value : α}
    (here : scan cur = (value, cur))
    (there : ∀ position rest, Begins stops rest → scan ⟨position, rest⟩ = (value, ⟨position, rest⟩)) :
    Takes scan cur stops [] where
  split := by rw [here, List.nil_append]
  solid _ member := by cases member
  again position rest stop := ⟨position, by rw [List.nil_append, there position rest stop, here]⟩

/-- A character that is no digit. -/
def noDigit (c : Char) : Bool := !c.isDigit

theorem isSolid_of_isDigit {c : Char} (digit : c.isDigit = true) : isSolid c = true :=
  forall_digit (P := fun c => isSolid c = true) (by decide) digit

/-- The digits at the front of a text. -/
theorem takes_digits (position : Nat) (cs : List Char) :
    Takes spanDigits ⟨position, cs⟩ noDigit (cs.takeWhile Char.isDigit) where
  split := (List.takeWhile_append_dropWhile).symm
  solid _ member := isSolid_of_isDigit (List.mem_takeWhile_imp member)
  again position' rest stop := by
    have digits : ∀ c ∈ cs.takeWhile Char.isDigit, c.isDigit = true := fun _ member => List.mem_takeWhile_imp member
    have front : rest.takeWhile Char.isDigit = [] ∧ rest.dropWhile Char.isDigit = rest := by
      cases rest with
      | nil => exact ⟨rfl, rfl⟩
      | cons c rest =>
        have other : ¬ c.isDigit = true := by simpa [noDigit] using begins_cons.mp stop
        exact ⟨List.takeWhile_cons_of_neg other, List.dropWhile_cons_of_neg other⟩
    simp [spanDigits, List.takeWhile_append_of_pos digits, List.dropWhile_append_of_pos digits, front]

/-- The whole part of a number. If there is one, it begins with a digit. -/
theorem takes_whole (cur : Cursor) :
    ∃ taken, Takes spanWhole cur noDigit taken ∧ Begins Char.isDigit taken ∧
      ((spanWhole cur).1 ≠ [] → taken ≠ []) := by
  have other {position : Nat} {cs : List Char} (begins : Begins (· != '0') cs) :
      spanWhole ⟨position, cs⟩ = spanDigits ⟨position, cs⟩ := by
    unfold spanWhole
    split
    · rename_i zero
      rw [show cs = _ from zero] at begins
      cases begins_cons.mp begins
    · rfl
  obtain ⟨position, cs⟩ := cur
  rcases begins_with_or '0' cs with ⟨rest, rfl⟩ | begins
  · have zero : ['0'].all isSolid = true := by decide
    exact ⟨['0'], ⟨rfl, List.all_eq_true.mp zero, fun position' _ _ => ⟨position' + 1, rfl⟩⟩,
      begins_cons.mpr (by decide), fun _ => List.cons_ne_nil _ _⟩
  · have digits := takes_digits position cs
    have front : Begins Char.isDigit (cs.takeWhile Char.isDigit) :=
      fun c member => List.mem_takeWhile_imp (List.mem_of_mem_head? member)
    have same : Begins (· != '0') (cs.takeWhile Char.isDigit) := by
      cases cs with
      | nil => exact .nil _
      | cons c cs =>
        rw [List.takeWhile_cons]
        split
        · exact begins_cons.mpr (begins c rfl)
        · exact .nil _
    refine ⟨cs.takeWhile Char.isDigit, ⟨?_, digits.solid, fun position' rest stop => ?_⟩, front, ?_⟩
    · rw [other begins]
      exact digits.split
    · have apart : Begins (· != '0') rest := stop.mono fun c no => by
        simp only [bne_iff_ne]
        rintro rfl
        cases no
      rw [other begins, other (same.append apart)]
      exact digits.again position' rest stop
    · rw [other begins]
      exact fun some none => some (by simp [spanDigits, none])

/-- A character that neither is a digit nor begins a fraction. -/
def noFraction (c : Char) : Bool := noDigit c && c != '.'

/-- The fraction of a number, if there is one. -/
theorem takes_fraction (cur : Cursor) :
    ∃ taken, Takes spanFraction cur noFraction taken ∧ Begins (· = '.') taken := by
  have other {position : Nat} {cs : List Char} (begins : Begins (· != '.') cs) :
      spanFraction ⟨position, cs⟩ = (none, ⟨position, cs⟩) := by
    unfold spanFraction
    split
    · rename_i point
      rw [show cs = _ from point] at begins
      cases begins_cons.mp begins
    · rfl
  have stopped (position : Nat) (rest : List Char) (stop : Begins noFraction rest) :
      spanFraction ⟨position, rest⟩ = (none, ⟨position, rest⟩) :=
    other (stop.mono fun _ both => (Bool.and_eq_true_iff.mp both).2)
  obtain ⟨position, cs⟩ := cur
  rcases begins_with_or '.' cs with ⟨rest, rfl⟩ | begins
  · have digits := takes_digits (position + 1) rest
    have scanned (position : Nat) (rest : List Char) : spanFraction ⟨position, '.' :: rest⟩ =
        if (spanDigits ⟨position + 1, rest⟩).1.isEmpty then (none, ⟨position, '.' :: rest⟩)
        else (some (spanDigits ⟨position + 1, rest⟩).1, (spanDigits ⟨position + 1, rest⟩).2) := rfl
    by_cases empty : (spanDigits ⟨position + 1, rest⟩).1.isEmpty = true
    · exact ⟨[], .nothing (by rw [scanned, if_pos empty]) stopped, .nil _⟩
    · refine ⟨'.' :: rest.takeWhile Char.isDigit, ⟨?_, ?_, fun position' rest' stop => ?_⟩, begins_cons.mpr rfl⟩
      · rw [scanned, if_neg empty]
        exact congrArg ('.' :: ·) digits.split
      · exact List.forall_mem_cons.mpr ⟨by decide, digits.solid⟩
      · obtain ⟨after, again⟩ := digits.again (position' + 1) rest'
          (stop.mono fun _ both => (Bool.and_eq_true_iff.mp both).1)
        exact ⟨after, by rw [scanned, if_neg empty, List.cons_append, scanned, again, if_neg empty]⟩
  · exact ⟨[], .nothing (other begins) stopped, .nil _⟩

/-- The letter of an exponent. -/
def isExponent (c : Char) : Bool := c = 'e' || c = 'E'

/-- A character that neither is a digit nor begins an exponent. -/
def noExponent (c : Char) : Bool := noDigit c && !isExponent c

/-- Whether there is a sign, and which, is decided by the first character. -/
theorem sign_of_first (c : Char) (cs cs' : List Char) :
    signLength (c :: cs) = signLength (c :: cs') ∧ (splitSign (c :: cs)).1 = (splitSign (c :: cs')).1 := by
  by_cases plus : c = '+'
  · subst plus
    exact ⟨rfl, rfl⟩
  by_cases minus : c = '-'
  · subst minus
    exact ⟨rfl, rfl⟩
  simp [signLength, splitSign, plus, minus]

theorem takes_sign (cs : List Char) :
    (cs.take (signLength cs)).length = signLength cs ∧ ∀ c ∈ cs.take (signLength cs), isSolid c = true := by
  unfold signLength
  split
  · exact ⟨rfl, by simp; decide⟩
  · exact ⟨rfl, by simp; decide⟩
  · exact ⟨rfl, fun _ member => by cases member⟩

/-- The exponent of a number, if there is one. -/
theorem takes_exponent (cur : Cursor) :
    ∃ taken, Takes spanExponent cur noExponent taken ∧ Begins isExponent taken := by
  have stopped (position : Nat) (rest : List Char) (stop : Begins (! isExponent ·) rest) :
      spanExponent ⟨position, rest⟩ = (none, ⟨position, rest⟩) := by
    cases rest with
    | nil => rfl
    | cons c rest => exact if_neg (by simpa [isExponent] using begins_cons.mp stop)
  have after {rest : List Char} (stop : Begins noExponent rest) : Begins (! isExponent ·) rest :=
    stop.mono fun _ both => (Bool.and_eq_true_iff.mp both).2
  obtain ⟨position, cs⟩ := cur
  by_cases begins : Begins (! isExponent ·) cs
  · exact ⟨[], .nothing (stopped _ _ begins) fun _ _ stop => stopped _ _ (after stop), .nil _⟩
  obtain ⟨letter, tail, rfl, isLetter⟩ : ∃ letter tail, cs = letter :: tail ∧ isExponent letter = true := by
    cases cs with
    | nil => exact absurd (.nil _) begins
    | cons letter tail => exact ⟨letter, tail, rfl, by simpa [begins_cons] using begins⟩
  have scanned (position : Nat) (tail : List Char) :
      spanExponent ⟨position, letter :: tail⟩ =
        let digits := spanDigits ⟨position + (1 + signLength tail), tail.drop (signLength tail)⟩
        if digits.1.isEmpty then (none, ⟨position, letter :: tail⟩)
        else (some (signedInt (splitSign tail).1 (ofDigits digits.1)), digits.2) := by
    simp only [spanExponent, Cursor.skip, Nat.add_comm 1, List.drop_succ_cons]
    exact if_pos isLetter
  obtain ⟨signWidth, signSolid⟩ := takes_sign tail
  have digits (position : Nat) := takes_digits position (tail.drop (signLength tail))
  by_cases empty : (spanDigits ⟨0, tail.drop (signLength tail)⟩).1.isEmpty = true
  · have none : spanExponent ⟨position, letter :: tail⟩ = (none, ⟨position, letter :: tail⟩) := by
      rw [scanned]
      exact if_pos empty
    exact ⟨[], .nothing none fun _ _ stop => stopped _ _ (after stop), .nil _⟩
  have takes : spanExponent ⟨position, letter :: tail⟩ =
      (some (signedInt (splitSign tail).1 (ofDigits (spanDigits ⟨0, tail.drop (signLength tail)⟩).1)),
        (spanDigits ⟨position + (1 + signLength tail), tail.drop (signLength tail)⟩).2) := by
    rw [scanned]
    exact if_neg empty
  have whole : tail = tail.take (signLength tail) ++ (tail.drop (signLength tail)).takeWhile Char.isDigit ++
      (tail.drop (signLength tail)).dropWhile Char.isDigit := by
    rw [List.append_assoc, List.takeWhile_append_dropWhile, List.take_append_drop]
  refine ⟨letter :: (tail.take (signLength tail) ++ (tail.drop (signLength tail)).takeWhile Char.isDigit),
    ⟨?_, ?_, fun position' rest stop => ?_⟩, begins_cons.mpr isLetter⟩
  · rw [takes]
    exact congrArg (letter :: ·) whole
  · have letterSolid : isSolid letter = true := by
      rcases Bool.or_eq_true_iff.mp isLetter with same | same <;> rw [of_decide_eq_true same] <;> decide
    exact List.forall_mem_cons.mpr ⟨letterSolid, List.forall_mem_append.mpr ⟨signSolid, (digits 0).solid⟩⟩
  · -- a sign or a digit comes first, so the sign is found again
    obtain ⟨b, bs, body⟩ : ∃ b bs, tail.take (signLength tail) ++
        (tail.drop (signLength tail)).takeWhile Char.isDigit = b :: bs :=
      List.exists_cons_of_ne_nil fun nothing => empty (by simp [spanDigits, (List.append_eq_nil_iff.mp nothing).2])
    have sign : signLength (b :: bs ++ rest) = signLength tail ∧
        (splitSign (b :: bs ++ rest)).1 = (splitSign tail).1 := by
      rw [body] at whole
      rw [whole]
      exact sign_of_first b _ _
    have behind : (b :: bs ++ rest).drop (signLength tail) =
        (tail.drop (signLength tail)).takeWhile Char.isDigit ++ rest := by
      rw [← body, List.append_assoc]
      exact List.drop_left' signWidth
    obtain ⟨position'', again⟩ := (digits 0).again (position' + (1 + signLength tail)) rest
      (stop.mono fun _ both => (Bool.and_eq_true_iff.mp both).1)
    refine ⟨position'', ?_⟩
    rw [takes, body, List.cons_append, scanned, sign.1, sign.2, behind, again]
    exact if_neg empty

/-- What follows a value does not continue a number. -/
theorem stops_of_isClosing {c : Char} (closing : isClosing c = true) :
    noDigit c = true ∧ noFraction c = true ∧ noExponent c = true := by
  simp only [isClosing, Bool.or_eq_true, decide_eq_true_eq] at closing
  rcases closing with (rfl | rfl) | rfl <;> decide

/-- A number is read again wherever it stands, before anything that may follow
a value. It begins with a digit. -/
theorem takes_number {negative : Bool} {cur after : Cursor} {value : Json}
    (scanned : scanNumber? negative cur = some (value, after)) :
    ∃ taken, cur.rest = taken ++ after.rest ∧ (∀ c ∈ taken, isSolid c = true) ∧
      (∃ d more, taken = d :: more ∧ d.isDigit = true) ∧
      ∀ position rest, Begins isClosing rest →
        ∃ position', scanNumber? negative ⟨position, taken ++ rest⟩ = some (value, ⟨position', rest⟩) := by
  obtain ⟨whole, takesWhole, digitFirst, present⟩ := takes_whole cur
  obtain ⟨fraction, takesFraction, pointFirst⟩ := takes_fraction (spanWhole cur).2
  obtain ⟨exponent, takesExponent, letterFirst⟩ := takes_exponent (spanFraction (spanWhole cur).2).2
  unfold scanNumber? at scanned
  dsimp only at scanned
  split at scanned
  · cases scanned
  rename_i someWhole
  obtain ⟨d, more, rfl⟩ := List.exists_cons_of_ne_nil (present (by simpa using someWhole))
  have behind : after = (spanExponent (spanFraction (spanWhole cur).2).2).2 := by
    split at scanned <;> cases scanned <;> rfl
  refine ⟨d :: more ++ fraction ++ exponent, ?_, ?_, ⟨d, more ++ fraction ++ exponent, rfl, begins_cons.mp digitFirst⟩,
    fun position rest closing => ?_⟩
  · rw [behind, List.append_assoc, ← takesExponent.split, List.append_assoc, ← takesFraction.split, ← takesWhole.split]
  · simp only [List.forall_mem_append]
    exact ⟨⟨takesWhole.solid, takesFraction.solid⟩, takesExponent.solid⟩
  · have afterFraction : Begins noFraction (exponent ++ rest) :=
      .append (letterFirst.mono fun c letter => by
        rcases Bool.or_eq_true_iff.mp letter with same | same <;> rw [of_decide_eq_true same] <;> decide)
        (closing.mono fun c closes => (stops_of_isClosing closes).2.1)
    have afterWhole : Begins noDigit (fraction ++ (exponent ++ rest)) :=
      .append (pointFirst.mono fun c point => by rw [of_decide_eq_true point]; decide)
        (afterFraction.mono fun c both => (Bool.and_eq_true_iff.mp both).1)
    obtain ⟨atFraction, readWhole⟩ := takesWhole.again position _ afterWhole
    obtain ⟨atExponent, readFraction⟩ := takesFraction.again atFraction _ afterFraction
    obtain ⟨behindAll, readExponent⟩ := takesExponent.again atExponent rest
      (closing.mono fun c closes => (stops_of_isClosing closes).2.2)
    refine ⟨behindAll, ?_⟩
    unfold scanNumber?
    dsimp only
    rw [List.append_assoc, List.append_assoc, readWhole]
    dsimp only
    rw [readFraction]
    dsimp only
    rw [readExponent, if_neg someWhole]
    split at scanned <;> rename_i integral <;> cases scanned
    · exact if_pos integral
    · exact if_neg integral

/-- A word is found again at the front of any text that begins with it. -/
theorem find_word {word : List Char × Json} (known : word ∈ words) (rest : List Char) :
    words.find? (fun other => other.1.isPrefixOf (word.1 ++ rest)) = some word := by
  simp only [words, List.mem_cons, List.not_mem_nil, or_false] at known
  rcases known with rfl | rfl | rfl | rfl | rfl | rfl <;> rfl

/-- No word begins like a number. -/
theorem find_word_none {d : Char} (digit : d.isDigit = true) (rest : List Char) :
    (words.find? fun word => word.1.isPrefixOf (d :: rest)) = none ∧
      (words.find? fun word => word.1.isPrefixOf ('-' :: d :: rest)) = none := by
  have other (letter : Char) (no : letter.isDigit = false) : (letter == d) = false := by
    rw [beq_eq_false_iff_ne]
    rintro rfl
    rw [no] at digit
    cases digit
  constructor <;>
    simp [words, List.isPrefixOf, other 'n' rfl, other 't' rfl, other 'f' rfl, other 'N' rfl, other 'I' rfl, other '-' rfl]

/-- A word or a number is read again wherever it stands, before anything that
may follow a value. -/
theorem takes_scalar {cur after : Cursor} {value : Json} (scanned : scanScalar? cur = some (value, after)) :
    ∃ taken, cur.rest = taken ++ after.rest ∧ (∀ c ∈ taken, isSolid c = true) ∧
      ∀ position rest, Begins isClosing rest →
        ∃ position', scanScalar? ⟨position, taken ++ rest⟩ = some (value, ⟨position', rest⟩) := by
  obtain ⟨place, cs⟩ := cur
  unfold scanScalar? at scanned
  split at scanned
  · rename_i word found
    have known := List.mem_of_find?_eq_some found
    have front := List.find?_some found
    obtain ⟨rest, rfl⟩ : word.1 <+: cs := List.isPrefixOf_iff_prefix.mp front
    obtain ⟨rfl, rfl⟩ : word.2 = value ∧ Cursor.skip ⟨place, word.1 ++ rest⟩ word.1.length = after := by
      simpa using scanned
    have solid : words.all (fun word => word.1.all isSolid) = true := by decide
    refine ⟨word.1, by simp [Cursor.skip], List.all_eq_true.mp (List.all_eq_true.mp solid word known), fun position rest' _ => ⟨position + word.1.length, ?_⟩⟩
    unfold scanScalar?
    rw [find_word known]
    simp [Cursor.skip]
  · rcases begins_with_or '-' cs with ⟨rest, rfl⟩ | begins
    · obtain ⟨_, split, solid, ⟨d, more, rfl, digit⟩, again⟩ := takes_number scanned
      refine ⟨'-' :: d :: more, congrArg ('-' :: ·) split, List.forall_mem_cons.mpr ⟨by decide, solid⟩,
        fun position rest' closing => ?_⟩
      obtain ⟨position', read⟩ := again (position + 1) rest' closing
      refine ⟨position', ?_⟩
      unfold scanScalar?
      rw [List.cons_append, List.cons_append, (find_word_none digit (more ++ rest')).2]
      exact read
    · have unsigned : scanNumber? false ⟨place, cs⟩ = some (value, after) := by
        split at scanned
        · rename_i minus
          rw [show cs = _ from minus] at begins
          cases begins _ rfl
        · exact scanned
      obtain ⟨_, split, solid, ⟨d, more, rfl, digit⟩, again⟩ := takes_number unsigned
      refine ⟨d :: more, split, solid, fun position rest' closing => ?_⟩
      obtain ⟨position', read⟩ := again position rest' closing
      refine ⟨position', ?_⟩
      unfold scanScalar?
      rw [List.cons_append, (find_word_none digit (more ++ rest')).1]
      dsimp only
      split
      · rename_i minus
        cases minus
        cases digit
      · exact read

/-- The characters of a string after its opening quote. -/
inductive TextBody : List Char → Prop
  | close : TextBody ['"']
  | plain {c : Char} {cs : List Char} : c ≠ '"' → c ≠ '\\' → TextBody cs → TextBody (c :: cs)
  | escape {c : Char} {cs : List Char} : TextBody cs → TextBody ('\\' :: c :: cs)

/-- A character that neither ends a string nor begins an escape. -/
theorem plain_of_hexValue? {c : Char} {n : Nat} (known : Text.hexValue? c = some n) : c ≠ '"' ∧ c ≠ '\\' := by
  constructor <;> rintro rfl <;> cases known

theorem TextBody.digits {a b c d : Char} {unit : Nat} {cs : List Char} (known : fourHex? a b c d = some unit)
    (body : TextBody cs) : TextBody ('\\' :: 'u' :: a :: b :: c :: d :: cs) := by
  simp only [fourHex?, Option.bind_eq_bind, Option.bind_eq_some_iff] at known
  obtain ⟨_, first, _, second, _, third, _, fourth, _⟩ := known
  exact .escape (.plain (plain_of_hexValue? first).1 (plain_of_hexValue? first).2
    (.plain (plain_of_hexValue? second).1 (plain_of_hexValue? second).2
      (.plain (plain_of_hexValue? third).1 (plain_of_hexValue? third).2
        (.plain (plain_of_hexValue? fourth).1 (plain_of_hexValue? fourth).2 body))))

theorem TextBody.exists_cons {cs : List Char} (body : TextBody cs) : ∃ c rest, cs = c :: rest := by
  cases body <;> exact ⟨_, _, rfl⟩

/-- A second unit begins as any escape of four digits does. -/
theorem secondHalf?_of_ne {cs : List Char} (other : ∀ tail, cs ≠ '\\' :: 'u' :: tail) (unit : Nat) :
    secondHalf? unit cs = none := by
  unfold secondHalf?
  split
  · exact absurd rfl (other _)
  · rfl

/-- A character that begins no escape and does not stand last as a backslash. -/
theorem ne_backslash {c : Char} {cs : List Char} (escape : ∀ d rest, c = '\\' → cs = d :: rest → False)
    (last : c = '\\' → cs = [] → False) : c ≠ '\\' := by
  rintro rfl
  cases cs with
  | nil => exact last rfl rfl
  | cons d rest => exact escape d rest rfl rfl

/-- Whether a second unit follows is decided by the characters of the string,
its closing quote included. -/
theorem secondHalf?_append {start position after unit : Nat} {seen cs value rest : List Char}
    (scanned : scanText start position seen cs = .done value after rest) (rest' : List Char) :
    secondHalf? unit (cs ++ rest') = secondHalf? unit cs := by
  fun_induction scanText start position seen cs <;> try cases scanned
  case case2 | case4 | case5 => rfl
  case case7 other _ _ _ =>
    rw [secondHalf?_of_ne (by simpa using other), secondHalf?_of_ne (by simpa using other)]
  case case11 c more _ _ _ escape backslash _ _ =>
    have other := ne_backslash escape backslash
    rw [secondHalf?_of_ne (by simp [other]), secondHalf?_of_ne (by simp [other])]

/-- A string is read again wherever it stands, whatever follows it. -/
theorem takes_text {start position after : Nat} {seen cs value rest : List Char}
    (scanned : scanText start position seen cs = .done value after rest) :
    ∃ body, cs = body ++ rest ∧ TextBody body ∧ ∀ start' position' rest',
      ∃ after', scanText start' position' seen (body ++ rest') = .done value after' rest' := by
  fun_induction scanText start position seen cs <;> try cases scanned
  case case2 => exact ⟨['"'], rfl, .close, fun _ position' _ => ⟨position' + 1, by simp [scanText]⟩⟩
  case case4 a b c d e more unit known pair follows ih =>
    obtain ⟨body, split, isBody, again⟩ := ih scanned
    obtain ⟨f, tail, rfl⟩ := isBody.exists_cons
    obtain ⟨a', b', c', d', g, last, same, pairs⟩ : ∃ a' b' c' d' g last,
        e :: more = '\\' :: 'u' :: a' :: b' :: c' :: d' :: g :: last ∧
          (fourHex? a' b' c' d').bind (Text.pairChar? unit) = some pair := by
      unfold secondHalf? at follows
      split at follows
      · exact ⟨_, _, _, _, _, _, ‹_›, follows⟩
      · cases follows
    obtain ⟨rfl, rfl⟩ := List.cons.inj same
    obtain ⟨second, known', _⟩ := Option.bind_eq_some_iff.mp pairs
    obtain ⟨rfl, rfl⟩ := List.cons.inj split
    refine ⟨'\\' :: 'u' :: a :: b :: c :: d :: '\\' :: 'u' :: a' :: b' :: c' :: d' :: g :: tail, rfl,
      .digits known (.digits known' isBody), fun start' position' rest' => ?_⟩
    obtain ⟨after', read⟩ := again start' (position' + 12) rest'
    refine ⟨after', ?_⟩
    simp only [List.cons_append] at read ⊢
    rw [scanText]
    simp only [known, secondHalf?, pairs, List.drop_succ_cons, List.drop_zero]
    exact read
  case case5 a b c d e more unit known single ih =>
    obtain ⟨body, split, isBody, again⟩ := ih scanned
    obtain ⟨f, tail, rfl⟩ := isBody.exists_cons
    refine ⟨'\\' :: 'u' :: a :: b :: c :: d :: f :: tail, by rw [split]; rfl, .digits known isBody,
      fun start' position' rest' => ?_⟩
    obtain ⟨after', read⟩ := again start' (position' + 6) rest'
    -- the body alone is a string as well, so the look at a second unit goes no further than its quote
    obtain ⟨_, alone⟩ := again start' (position' + 6) []
    rw [List.append_nil] at alone
    have none : secondHalf? unit (f :: (tail ++ rest')) = none := by
      rw [← List.cons_append, secondHalf?_append alone, ← single, split, secondHalf?_append alone]
    refine ⟨after', ?_⟩
    simp only [List.cons_append] at read ⊢
    rw [scanText]
    simp only [known, none]
    exact read
  case case7 letter more _ unicode c known ih =>
    obtain ⟨body, rfl, isBody, again⟩ := ih scanned
    refine ⟨'\\' :: letter :: body, rfl, .escape isBody, fun start' position' rest' => ?_⟩
    obtain ⟨after', read⟩ := again start' (position' + 2) rest'
    exact ⟨after', by rw [List.cons_append, List.cons_append, scanText_letter known, read]⟩
  case case11 c more quote _ _ escape backslash printable ih =>
    have other := ne_backslash escape backslash
    obtain ⟨body, rfl, isBody, again⟩ := ih scanned
    refine ⟨c :: body, rfl, .plain quote other isBody, fun start' position' rest' => ?_⟩
    obtain ⟨after', read⟩ := again start' (position' + 1) rest'
    exact ⟨after', by rw [List.cons_append, scanText_plain quote other (Nat.not_le.mp printable), read]⟩
end SharedTables.Json
