import Mathlib.Data.List.TakeWhile
import SharedTables.Proofs.Number.Digits
import SharedTables.Time.Reader

/-! Days and times that are written in full are read back: a date with hyphens,
a time with colons to the second, with a fraction of six digits or none, and an
offset of hours and minutes or none. -/
namespace SharedTables

/-! Numbers of a fixed width. -/

theorem digit_ofNat {d : Nat} (small : d < 10) :
    (Char.ofNat (48 + d)).isDigit = true ∧ (Char.ofNat (48 + d)).toNat - 48 = d := by
  have all : ∀ d < 10, (Char.ofNat (48 + d)).isDigit = true ∧ (Char.ofNat (48 + d)).toNat - 48 = d := by decide
  exact all d small

theorem length_decimalFixed (width n : Nat) : (decimalFixed width n).length = width := by
  induction width generalizing n with
  | zero => rfl
  | succ width ih => simp [decimalFixed, ih]

theorem digit_of_mem_decimalFixed {width n : Nat} {c : Char} (member : c ∈ decimalFixed width n) :
    c.isDigit = true := by
  induction width generalizing n with
  | zero => cases member
  | succ width ih =>
    rw [decimalFixed, List.mem_append, List.mem_singleton] at member
    obtain earlier | rfl := member
    · exact ih earlier
    · exact (digit_ofNat (Nat.mod_lt n (by decide))).1

theorem decimalFixed_two (n : Nat) : ∃ a b, decimalFixed 2 n = [a, b] ∧ a.isDigit = true := by
  have digit : Char.isDigit (Char.ofNat (48 + n / 10 % 10)) = true := (digit_ofNat (Nat.mod_lt _ (by decide))).1
  exact ⟨_, _, rfl, digit⟩

/-- Four digits are two pairs. -/
theorem decimalFixed_four (n : Nat) : decimalFixed 4 n = decimalFixed 2 (n / 100) ++ decimalFixed 2 (n % 100) := by
  simp only [decimalFixed, List.nil_append, List.cons_append]
  rw [show n / 10 / 10 / 10 % 10 = n / 100 / 10 % 10 by omega, show n / 10 / 10 % 10 = n / 100 % 10 by omega,
    show n / 10 % 10 = n % 100 / 10 % 10 by omega, show n % 10 = n % 100 % 10 by omega]

namespace DateTime
open Calendar

variable {cs : List Char}

theorem twoDigits?_decimalFixed {n : Nat} (small : n < 100) (cs : List Char) :
    twoDigits? (decimalFixed 2 n ++ cs) = some (n, cs) := by
  obtain ⟨tens, tensValue⟩ := digit_ofNat (show n / 10 % 10 < 10 by omega)
  obtain ⟨ones, onesValue⟩ := digit_ofNat (show n % 10 < 10 by omega)
  simp only [decimalFixed, List.nil_append, List.cons_append, twoDigits?, tens, ones, Bool.and_self, ↓reduceIte,
    tensValue, onesValue, show n / 10 % 10 * 10 + n % 10 = n by omega]

/-! Dates. -/

theorem monthDay?_extended {month day : Nat} (months : month < 100) (days : day < 100) (year : Nat) :
    monthDay? year true (decimalFixed 2 month ++ '-' :: decimalFixed 2 day) = some ⟨year, month, day⟩ := by
  have last := twoDigits?_decimalFixed days []
  rw [List.append_nil] at last
  simp [monthDay?, twoDigits?_decimalFixed months, last]

/-- A date is read back. Its month begins with a digit, so it is no week. -/
theorem readDate?_chars {date : Date} (valid : date.Valid) : readDate? date.chars = some date := by
  obtain ⟨-, years, -, months, -, days⟩ := valid
  have fewer : daysInMonth date.year date.month ≤ 31 := by
    unfold daysInMonth
    split <;> split <;> decide
  have read := monthDay?_extended (show date.month < 100 by omega) (show date.day < 100 by omega) date.year
  obtain ⟨a, b, digits, digit⟩ := decimalFixed_two date.month
  rw [digits, List.cons_append] at read
  simp only [readDate?, Date.chars, decimalFixed_four, List.append_assoc, Option.bind_eq_bind, Option.bind_some,
    twoDigits?_decimalFixed (show date.year / 100 < 100 by omega),
    twoDigits?_decimalFixed (show date.year % 100 < 100 by omega), digits, List.cons_append,
    show date.year / 100 * 100 + date.year % 100 = date.year by omega]
  split
  · rename_i same
    rw [(List.cons.inj same).1] at digit
    exact absurd digit (by decide)
  · exact read

theorem mem_dateChars {date : Date} {c : Char} (member : c ∈ date.chars) : c.isDigit = true ∨ c = '-' := by
  simp only [Date.chars, List.mem_append, List.mem_cons] at member
  rcases member with (digit | hyphen | digit) | hyphen | digit
  · exact .inl (digit_of_mem_decimalFixed digit)
  · exact .inr hyphen
  · exact .inl (digit_of_mem_decimalFixed digit)
  · exact .inr hyphen
  · exact .inl (digit_of_mem_decimalFixed digit)

/-- The date is over after ten characters: hyphens stand in it, but no week. -/
theorem dateLength_chars (date : Date) (cs : List Char) : dateLength (date.chars ++ 'T' :: cs) = 10 := by
  obtain ⟨a, b, digits, digit⟩ := decimalFixed_two date.month
  have noWeek : a ≠ 'W' := by
    rintro rfl
    exact absurd digit (by decide)
  obtain ⟨rest, shape⟩ : ∃ rest, date.chars ++ 'T' :: cs = decimalFixed 4 date.year ++ '-' :: a :: rest :=
    ⟨_, by simp only [Date.chars, digits, List.append_assoc, List.cons_append]; rfl⟩
  have length : (date.chars ++ 'T' :: cs).length ≠ 7 := by simp [Date.chars, length_decimalFixed]; omega
  have after (k : Nat) (later : List Char) : (decimalFixed 4 date.year ++ later)[4 + k]? = later[k]? := by
    rw [List.getElem?_append_right (by simp [length_decimalFixed]), length_decimalFixed, Nat.add_sub_cancel_left]
  have hyphen : (date.chars ++ 'T' :: cs)[4]? = some '-' := by rw [shape, after 0]; rfl
  have month : (date.chars ++ 'T' :: cs)[5]? ≠ some 'W' := by rw [shape, after 1]; simpa using noWeek
  rw [dateLength, if_neg length, if_pos hyphen, if_neg month]

/-- What follows the date is a time of day. -/
theorem read?_dated {date : Date} (valid : date.Valid) {time : TimeOfDay} {offset : Option Int}
    (clock : readTime? cs = some (time, offset)) (timely : (⟨date, time, offset⟩ : DateTime).Valid) :
    read? (String.ofList (date.chars ++ 'T' :: cs)) = some ⟨date, time, offset⟩ := by
  have whole : date.chars.length = 10 := by simp [Date.chars, length_decimalFixed]
  simp only [read?, String.toList_ofList, dateLength_chars, ← whole, List.take_left, List.drop_left,
    readDate?_chars valid, Option.bind_eq_bind, Option.bind_some, clock, timely, ↓reduceIte]

/-! Times of day. -/

/-- Hours, minutes and seconds with colons between them. -/
def clockChars (hour minute second : Nat) : List Char :=
  decimalFixed 2 hour ++ ':' :: (decimalFixed 2 minute ++ ':' :: decimalFixed 2 second)

section
variable {next : Char} {left field value : Nat} {separated : Bool} {time : TimeOfDay}

/-- A field before a colon. -/
theorem readFields?_colon (small : value < 100) (more : cs ≠ []) (colons : field = 0 ∨ separated = true) :
    readFields? next (left + 1) field separated time (decimalFixed 2 value ++ ':' :: cs) =
      readFields? next left (field + 1) true (setField time field value) cs := by
  obtain ⟨c, rest, rfl⟩ := List.exists_cons_of_ne_nil more
  obtain rfl | rfl := colons
  · simp [readFields?, twoDigits?_decimalFixed small]
  · simp [readFields?, twoDigits?_decimalFixed small]

/-- The last field. -/
theorem readFields?_end (small : value < 100) :
    readFields? next (left + 1) field separated time (decimalFixed 2 value) =
      some ⟨setField time field value, next != '\x00'⟩ := by
  have last := twoDigits?_decimalFixed small []
  rw [List.append_nil] at last
  simp only [readFields?, last, Option.bind_eq_bind, Option.bind_some]

/-- A field before a fraction. -/
theorem readFields?_point (small : value < 100) (more : cs ≠ []) :
    readFields? next (left + 1) field separated time (decimalFixed 2 value ++ '.' :: cs) =
      readFraction? (setField time field value) next cs := by
  obtain ⟨c, rest, rfl⟩ := List.exists_cons_of_ne_nil more
  simp [readFields?, twoDigits?_decimalFixed small]

end

/-- A fraction after a point, if there is one. -/
def pointed (fraction : List Char) : List Char := if fraction = [] then [] else '.' :: fraction

section
variable {hour minute second : Nat} {fraction : List Char}

/-- A fraction of six digits gives the microseconds. -/
theorem readFraction?_six (six : fraction.length = 6) (digits : ∀ c ∈ fraction, c.isDigit = true) (time : TimeOfDay)
    (next : Char) :
    readFraction? time next fraction = some ⟨{ time with microsecond := digitsNumber fraction }, next != '\x00'⟩ := by
  have whole : fraction.take 6 = fraction := List.take_of_length_le (Nat.le_of_eq six)
  have rest : fraction.drop 6 = [] := List.drop_of_length_le (Nat.le_of_eq six)
  have shown : fraction.all Char.isDigit = true := List.all_eq_true.mpr digits
  simp [readFraction?, whole, rest, shown, six]

theorem readTimeOfDay?_clock (hours : hour < 100) (minutes : minute < 100) (seconds : second < 100)
    (short : fraction = [] ∨ fraction.length = 6) (digits : ∀ c ∈ fraction, c.isDigit = true) (next : Char) :
    readTimeOfDay? next (clockChars hour minute second ++ pointed fraction) =
      some ⟨⟨hour, minute, second, digitsNumber fraction⟩, next != '\x00'⟩ := by
  rw [readTimeOfDay?, clockChars, List.append_assoc, List.cons_append, readFields?_colon hours (by simp) (.inl rfl),
    List.append_assoc, List.cons_append, readFields?_colon minutes (by simp [decimalFixed]) (.inr rfl)]
  obtain rfl | six := short
  · rw [pointed, if_pos rfl, List.append_nil, readFields?_end seconds]
    rfl
  · have some_digit : fraction ≠ [] := by
      rintro rfl
      cases six
    rw [pointed, if_neg some_digit, readFields?_point seconds some_digit, readFraction?_six six digits]
    rfl

/-- A sign, hours and minutes. -/
def signedChars (negative : Bool) (hours minutes : Nat) : List Char :=
  (if negative then '-' else '+') :: (decimalFixed 2 hours ++ ':' :: decimalFixed 2 minutes)

/-- The microseconds of an offset of hours and minutes. -/
def offsetMicros (negative : Bool) (hours minutes : Nat) : Int :=
  if negative then -(TimeOfDay.microseconds ⟨hours, minutes, 0, 0⟩ : Int)
  else TimeOfDay.microseconds ⟨hours, minutes, 0, 0⟩

/-- An offset that is read to its end. -/
theorem readOffset?_of_read {written : WrittenTime} (read : readTimeOfDay? '\x00' cs = some written)
    (complete : written.leftover = false) {negative : Bool} : readOffset? negative cs =
      if written.time.microseconds / 1000000 = 0 then some 0
      else some (if negative then -(written.time.microseconds : Int) else written.time.microseconds) := by
  rw [readOffset?, read]
  simp only [Option.bind_eq_bind, Option.bind_some, complete, Bool.false_eq_true, ↓reduceIte]
  rfl

theorem readOffset?_hours {hours minutes : Nat} (few : hours < 100) (fewer : minutes < 100) (negative : Bool) :
    readOffset? negative (decimalFixed 2 hours ++ ':' :: decimalFixed 2 minutes) =
      some (offsetMicros negative hours minutes) := by
  have read : readTimeOfDay? '\x00' (decimalFixed 2 hours ++ ':' :: decimalFixed 2 minutes) =
      some ⟨⟨hours, minutes, 0, 0⟩, '\x00' != '\x00'⟩ := by
    rw [readTimeOfDay?, readFields?_colon few (by simp [decimalFixed]) (.inl rfl), readFields?_end fewer]
    rfl
  obtain ⟨seconds, whole⟩ : ∃ seconds, TimeOfDay.microseconds ⟨hours, minutes, 0, 0⟩ = seconds * 1000000 :=
    ⟨(hours * 60 + minutes) * 60, by simp only [TimeOfDay.microseconds]; omega⟩
  rw [readOffset?_of_read read rfl, offsetMicros]
  generalize TimeOfDay.microseconds ⟨hours, minutes, 0, 0⟩ = micros at whole ⊢
  split
  · rename_i none_passed
    obtain rfl : micros = 0 := by omega
    cases negative <;> rfl
  · rfl

/-! A time and what is said of its offset. -/

theorem readTime?_of_clear {time : List Char} (clear : ∀ c ∈ time, (!beginsOffset c) = true) :
    readTime? time = (readTimeOfDay? '\x00' time).bind fun written =>
      if written.leftover then none else some (written.time, none) := by
  simp only [readTime?, List.takeWhile_eq_self_iff.mpr clear, List.dropWhile_eq_nil_iff.mpr clear, Option.bind_eq_bind]

/-- The time is over where the offset begins. -/
theorem readTime?_append_sign {time offset : List Char} (clear : ∀ c ∈ time, (!beginsOffset c) = true) {sign : Char}
    (begins : beginsOffset sign = true) (signed : sign ≠ 'Z') :
    readTime? (time ++ sign :: offset) = (readTimeOfDay? sign time).bind fun written =>
      (readOffset? (sign = '-') offset).bind fun offset => some (written.time, some offset) := by
  have taken : (time ++ sign :: offset).takeWhile (!beginsOffset ·) = time := by
    rw [List.takeWhile_append_of_pos clear, List.takeWhile_cons_of_neg (by simp [begins]), List.append_nil]
  have left : (time ++ sign :: offset).dropWhile (!beginsOffset ·) = sign :: offset := by
    rw [List.dropWhile_append_of_pos clear, List.dropWhile_cons_of_neg (by simp [begins])]
  simp only [readTime?, taken, left, signed, ↓reduceIte, Option.bind_eq_bind]

theorem mem_clockChars {c : Char} (member : c ∈ clockChars hour minute second) : c.isDigit = true ∨ c = ':' := by
  simp only [clockChars, List.mem_append, List.mem_cons] at member
  rcases member with digit | colon | digit | colon | digit
  · exact .inl (digit_of_mem_decimalFixed digit)
  · exact .inr colon
  · exact .inl (digit_of_mem_decimalFixed digit)
  · exact .inr colon
  · exact .inl (digit_of_mem_decimalFixed digit)

theorem mem_pointed {c : Char} (digits : ∀ c ∈ fraction, c.isDigit = true) (member : c ∈ pointed fraction) :
    c.isDigit = true ∨ c = '.' := by
  unfold pointed at member
  split at member
  · cases member
  · exact (List.mem_cons.mp member).elim .inr fun digit => .inl (digits c digit)

theorem mem_signedChars {c : Char} {negative : Bool} {hours minutes : Nat}
    (member : c ∈ signedChars negative hours minutes) : c.isDigit = true ∨ c ∈ ['+', '-', ':'] := by
  simp only [signedChars, List.mem_cons, List.mem_append] at member
  rcases member with sign | digit | colon | digit
  · cases negative <;> simp [sign]
  · exact .inl (digit_of_mem_decimalFixed digit)
  · simp [colon]
  · exact .inl (digit_of_mem_decimalFixed digit)

/-- No offset begins inside of a time. -/
theorem not_beginsOffset_time (digits : ∀ c ∈ fraction, c.isDigit = true) :
    ∀ c ∈ clockChars hour minute second ++ pointed fraction, (!beginsOffset c) = true := by
  have digit (c : Char) (digit : c.isDigit = true) : (!beginsOffset c) = true :=
    forall_digit (P := fun c => (!beginsOffset c) = true) (by decide) digit
  intro c member
  rcases List.mem_append.mp member with clock | point
  · rcases mem_clockChars clock with known | rfl
    · exact digit c known
    · rfl
  · rcases mem_pointed digits point with known | rfl
    · exact digit c known
    · rfl

variable (hours : hour < 100) (minutes : minute < 100) (seconds : second < 100)
  (short : fraction = [] ∨ fraction.length = 6) (digits : ∀ c ∈ fraction, c.isDigit = true)
include hours minutes seconds short digits

/-- A time that says nothing of its offset. -/
theorem readTime?_unsaid : readTime? (clockChars hour minute second ++ pointed fraction) =
    some (⟨hour, minute, second, digitsNumber fraction⟩, none) := by
  rw [readTime?_of_clear (not_beginsOffset_time digits), readTimeOfDay?_clock hours minutes seconds short digits]
  rfl

/-- A time with an offset of hours and minutes. -/
theorem readTime?_signed {ahead behind : Nat} (few : ahead < 100) (fewer : behind < 100) (negative : Bool) :
    readTime? (clockChars hour minute second ++ pointed fraction ++ signedChars negative ahead behind) =
    some (⟨hour, minute, second, digitsNumber fraction⟩, some (offsetMicros negative ahead behind)) := by
  have sign : decide ((if negative then '-' else '+') = '-') = negative := by cases negative <;> rfl
  rw [signedChars, readTime?_append_sign (not_beginsOffset_time digits) (by cases negative <;> rfl)
    (by cases negative <;> decide), readTimeOfDay?_clock hours minutes seconds short digits, sign, Option.bind_some,
    readOffset?_hours few fewer, Option.bind_some]

end

end DateTime
end SharedTables
