import Mathlib.Data.Rat.Floor
import SharedTables.Proofs.Profile.ExpiryChecks
import SharedTables.Proofs.Profile.SixDigits
import SharedTables.Proofs.Text.Blank
import SharedTables.Proofs.Time.Calendar

/-! Times of expiration mean what they say. A time that is written in full, with
a fraction of any length and any way to tell its offset, is read as the moment
that it names, cut to whole microseconds, and from that moment on the token of
its profile has expired. -/
namespace SharedTables.Profile
open DateTime

/-- What stands after a time: nothing, a `Z`, or an offset of hours and minutes. -/
inductive Zone
  | unsaid
  | utc
  | signed (negative : Bool) (hours minutes : Nat)

namespace Zone

/-- Offsets are shorter than a day, and hours have sixty minutes. -/
def Valid : Zone → Prop
  | unsaid | utc => True
  | signed _ hours minutes => hours < 24 ∧ minutes < 60

/-- A zone as it is written. -/
def chars : Zone → List Char
  | unsaid => []
  | utc => ['Z']
  | signed negative hours minutes => signedChars negative hours minutes

/-- The seconds that a zone is ahead of universal time. -/
def seconds : Zone → Int
  | unsaid | utc => 0
  | signed negative hours minutes =>
    if negative then -(hours * 3600 + minutes * 60 : Int) else hours * 3600 + minutes * 60

/-- The microseconds of the offset that is read, if there is one. -/
def offset : Zone → Option Int
  | unsaid => none
  | utc => some 0
  | signed negative hours minutes => some (offsetMicros negative hours minutes)

/-- A zone with a sign in place of a `Z`. -/
def plain : Zone → Zone
  | unsaid => unsaid
  | utc => signed false 0 0
  | signed negative hours minutes => signed negative hours minutes

end Zone

/-- A time that is written in full. Without a fraction there is no point. -/
structure Timestamp where
  date : Date
  hour : Nat
  minute : Nat
  second : Nat
  /-- The digits of the fraction of a second. -/
  fraction : List Char
  zone : Zone

namespace Timestamp

/-- The day that times are counted from. -/
def epoch : Date := ⟨1970, 1, 1⟩

/-- A day of the calendar, a time of a day and an offset. -/
structure Valid (t : Timestamp) : Prop where
  date : t.date.Valid
  hour : t.hour < 24
  minute : t.minute < 60
  second : t.second < 60
  fraction : ∀ c ∈ t.fraction, c.isDigit = true
  zone : t.zone.Valid

/-- A time as it is written. -/
def chars (t : Timestamp) : List Char :=
  t.date.chars ++ 'T' :: (clockChars t.hour t.minute t.second ++ pointed t.fraction ++ t.zone.chars)

/-- The whole seconds from the start of 1970 to a time. -/
def wholeSeconds (t : Timestamp) : Int :=
  epoch.daysTo t.date * 86400 + (t.hour * 3600 + t.minute * 60 + t.second) - t.zone.seconds

/-- The seconds from the start of 1970 to a time, with all digits of its fraction. -/
def seconds (t : Timestamp) : ℚ :=
  t.wholeSeconds + digitsNumber t.fraction / 10 ^ t.fraction.length

/-- The last whole microsecond of a time, counted from the start of 1970. -/
def microseconds (t : Timestamp) : Int := ⌊t.seconds * 1000000⌋

/-- The microseconds of a fraction, cut to a whole number. -/
def fractionMicros (t : Timestamp) : Nat := digitsNumber t.fraction * 10 ^ 6 / 10 ^ t.fraction.length

/-- The day, the time of the day and the offset that are read. -/
def moment (t : Timestamp) : DateTime :=
  ⟨t.date, ⟨t.hour, t.minute, t.second, t.fractionMicros⟩, some (t.zone.seconds * 1000000)⟩

end Timestamp

variable {zone : Zone} {t : Timestamp} {c : Char} {cs before after : List Char}

/-! The characters of a time. -/

theorem Zone.mem_chars (member : c ∈ zone.chars) : c.isDigit = true ∨ c ∈ ['+', '-', ':', 'Z'] := by
  cases zone with
  | unsaid => cases member
  | utc => exact .inr (by simp [List.mem_singleton.mp member])
  | signed negative hours minutes => exact (mem_signedChars member).imp_right (List.mem_append_left ['Z'])

theorem Zone.spellOutUtc_chars (absent : 'Z' ∉ cs) (zone : Zone) :
    spellOutUtc (cs ++ zone.chars) = cs ++ zone.plain.chars := by
  cases zone with
  | unsaid =>
    rw [chars, List.append_nil, spellOutUtc_of_not_mem absent]
    exact (List.append_nil cs).symm
  | utc => exact spellOutUtc_append cs
  | signed negative hours minutes =>
    refine spellOutUtc_of_not_mem fun member => ?_
    rcases List.mem_append.mp member with member | member
    · exact absent member
    · exact absurd (mem_signedChars member) (by decide)

namespace Timestamp

/-- What stands before the fraction. -/
def front (t : Timestamp) : List Char := t.date.chars ++ 'T' :: clockChars t.hour t.minute t.second

theorem chars_eq (t : Timestamp) : t.chars = t.front ++ (pointed t.fraction ++ t.zone.chars) := by
  simp only [chars, front, List.append_assoc, List.cons_append]

theorem mem_front (member : c ∈ t.front) : c.isDigit = true ∨ c ∈ ['-', 'T', ':'] := by
  simp only [front, List.mem_append, List.mem_cons] at member
  rcases member with date | mark | clock
  · exact (mem_dateChars date).imp_right fun hyphen => by simp [hyphen]
  · simp [mark]
  · exact (mem_clockChars clock).imp_right fun colon => by simp [colon]

theorem mem_chars (digits : ∀ c ∈ t.fraction, c.isDigit = true) (member : c ∈ t.chars) :
    c.isDigit = true ∨ c ∈ ['-', 'T', ':', '.', '+', 'Z'] := by
  rw [chars_eq, List.mem_append, List.mem_append] at member
  rcases member with front | point | zone
  · exact (mem_front front).imp_right (List.mem_append_left ['.', '+', 'Z'])
  · exact (mem_pointed digits point).imp_right fun point => by simp [point]
  · exact (Zone.mem_chars zone).imp_right fun mark =>
      (by decide : ['+', '-', ':', 'Z'] ⊆ ['-', 'T', ':', '.', '+', 'Z']) mark

end Timestamp

/-! What is read. -/

namespace Zone

theorem getD_offset (zone : Zone) : zone.offset.getD 0 = zone.seconds * 1000000 := by
  cases zone with
  | unsaid => rfl
  | utc => rfl
  | signed negative hours minutes =>
    have whole :
        (TimeOfDay.microseconds ⟨hours, minutes, 0, 0⟩ : Int) = (hours * 3600 + minutes * 60) * 1000000 := by
      simp only [TimeOfDay.microseconds]
      omega
    rw [offset, Option.getD_some, offsetMicros, seconds, whole]
    cases negative
    · rw [if_neg Bool.false_ne_true, if_neg Bool.false_ne_true]
    · rw [if_pos rfl, if_pos rfl, Int.neg_mul]

theorem Valid.offset_lt (valid : zone.Valid) : ∀ offset ∈ zone.offset, offset.natAbs < microsecondsPerDay := by
  cases zone with
  | unsaid => exact fun _ member => nomatch member
  | utc => simp [offset, microsecondsPerDay]
  | signed negative hours minutes =>
    obtain ⟨few, fewer⟩ := valid
    simp only [offset, offsetMicros, TimeOfDay.microseconds, microsecondsPerDay, Option.mem_def, Option.some.injEq,
      forall_eq']
    split <;> omega

theorem head_plain (zone : Zone) : ∀ c ∈ zone.plain.chars.head?, Text.isDigit c = false := by
  have sign (negative : Bool) : Text.isDigit (if negative then '-' else '+') = false := by cases negative <;> decide
  cases zone with
  | unsaid => exact fun _ member => nomatch member
  | utc => exact fun _ member => Option.some.inj member ▸ sign false
  | signed negative hours minutes => exact fun _ member => Option.some.inj member ▸ sign negative

end Zone

namespace Timestamp

theorem epoch_proper : epoch.Proper := ⟨by decide, by decide, by decide⟩

theorem fractionMicros_lt (valid : t.Valid) : t.fractionMicros < 1000000 := by
  have fewer := digitsNumber_lt valid.fraction
  rw [fractionMicros, Nat.div_lt_iff_lt_mul (Nat.pow_pos (by decide)), Nat.mul_comm]
  exact Nat.mul_lt_mul_of_pos_left fewer (by decide)

/-- The time of the day and the offset are read back, once the fraction has six
digits and the zone has a sign. -/
theorem readTime?_plain (valid : t.Valid) :
    readTime? (clockChars t.hour t.minute t.second ++ pointed (sixFraction t.fraction) ++ t.zone.plain.chars) =
      some (⟨t.hour, t.minute, t.second, t.fractionMicros⟩, t.zone.offset) := by
  have hours : t.hour < 100 := Nat.lt_trans valid.hour (by decide)
  have minutes : t.minute < 100 := Nat.lt_trans valid.minute (by decide)
  have seconds : t.second < 100 := Nat.lt_trans valid.second (by decide)
  have short := length_sixFraction t.fraction
  have digits := digit_of_mem_sixFraction valid.fraction
  rw [fractionMicros, ← digitsNumber_sixFraction valid.fraction]
  cases zone : t.zone with
  | unsaid =>
    rw [Zone.plain, Zone.chars, List.append_nil, readTime?_unsaid hours minutes seconds short digits]
    rfl
  | utc => exact readTime?_signed hours minutes seconds short digits (by decide) (by decide) false
  | signed negative ahead behind =>
    obtain ⟨few, fewer⟩ : ahead < 24 ∧ behind < 60 := by
      have known := valid.zone
      rwa [zone] at known
    exact readTime?_signed hours minutes seconds short digits (by omega) (by omega) negative

/-- A time is written anew with six digits for its fraction and a sign for its `Z`. -/
theorem sixDigits_chars (digits : ∀ c ∈ t.fraction, c.isDigit = true) : sixDigits none (spellOutUtc t.chars) =
    t.date.chars ++ 'T' ::
      (clockChars t.hour t.minute t.second ++ pointed (sixFraction t.fraction) ++ t.zone.plain.chars) := by
  have noUtc : 'Z' ∉ t.front ++ pointed t.fraction := fun member => by
    rcases List.mem_append.mp member with member | member
    · exact absurd (mem_front member) (by decide)
    · exact absurd (mem_pointed digits member) (by decide)
  have noPoint : '.' ∉ t.front := fun member => absurd (mem_front member) (by decide)
  have noPoint' : '.' ∉ t.zone.plain.chars := fun member => absurd (Zone.mem_chars member) (by decide)
  rw [chars_eq, ← List.append_assoc, Zone.spellOutUtc_chars noUtc, List.append_assoc,
    sixDigits_pointed noPoint digits t.zone.head_plain noPoint']
  simp only [front, List.append_assoc, List.cons_append]

theorem not_blank (digits : ∀ c ∈ t.fraction, c.isDigit = true) : ∀ c ∈ t.chars, Text.isBlank c = false := by
  intro c member
  have marks : ['-', 'T', ':', '.', '+', 'Z'].all (!Text.isBlank ·) = true := by decide
  rcases mem_chars digits member with digit | mark
  · exact forall_digit (P := fun c => Text.isBlank c = false) (by decide) digit
  · simpa using List.all_eq_true.mp marks c mark

/-- A time is read as its moment, whatever white space stands around it. -/
theorem readExpiration?_padded (valid : t.Valid) (front : ∀ c ∈ before, Text.isBlank c = true)
    (back : ∀ c ∈ after, Text.isBlank c = true) :
    readExpiration? (String.ofList (before ++ t.chars ++ after)) = some t.moment := by
  have timely : (⟨t.date, ⟨t.hour, t.minute, t.second, t.fractionMicros⟩, t.zone.offset⟩ : DateTime).Valid :=
    ⟨valid.date, ⟨valid.hour, valid.minute, valid.second, fractionMicros_lt valid⟩, valid.zone.offset_lt⟩
  simp only [readExpiration?, String.toList_ofList, Text.trimChars_padded front (not_blank valid.fraction) back,
    sixDigits_chars valid.fraction, DateTime.read?_dated valid.date (readTime?_plain valid) timely, Option.map_some,
    Zone.getD_offset, moment]

/-- The moment of a time lies as many whole microseconds after the start of 1970
as the time says. -/
theorem instant_moment (t : Timestamp) : t.moment.instant = t.microseconds := by
  have split : t.seconds * 1000000 = ((t.wholeSeconds * 1000000 : Int) : ℚ) +
      ((digitsNumber t.fraction * 10 ^ 6 : Nat) : ℚ) / ((10 ^ t.fraction.length : Nat) : ℚ) := by
    rw [seconds]
    push_cast
    ring
  have whole : t.microseconds = t.wholeSeconds * 1000000 + t.fractionMicros := by
    rw [microseconds, split, Int.floor_intCast_add, Rat.floor_natCast_div_natCast, fractionMicros, Int.natCast_ediv]
  have numbered : epoch.number = 719163 := by decide
  rw [whole, wholeSeconds, Date.daysTo, numbered]
  simp only [moment, DateTime.instant, epochDay, microsecondsPerDay, TimeOfDay.microseconds, Option.getD_some]
  generalize t.fractionMicros = micros
  omega

end Timestamp

/-- A time that is written in full, with white space around it, is read as the
moment that it names, cut to a whole number of microseconds; its days are those
that the calendar counts from the first of January 1970. A profile whose token
expires at it has expired exactly from that moment on, and what has expired
stays so. -/
theorem expiration_times_are_exact (valid : t.Valid) (front : ∀ c ∈ before, Text.isBlank c = true)
    (back : ∀ c ∈ after, Text.isBlank c = true) :
    let s := String.ofList (before ++ t.chars ++ after)
    Timestamp.epoch.Apart t.date (Timestamp.epoch.daysTo t.date) ∧
      readExpiration? s = some t.moment ∧ t.moment.instant = t.microseconds ∧
      ∀ p : BearerProfile, p.expiration = .str s →
        (∀ now, (Profile.bearer p).isExpired now = .ok (decide (t.microseconds ≤ now))) ∧
        ∀ now later, now ≤ later → (Profile.bearer p).isExpired now = .ok true →
          (Profile.bearer p).isExpired later = .ok true := by
  intro s
  have read : readExpiration? s = some t.moment := t.readExpiration?_padded valid front back
  have counted := (Date.apart_iff Timestamp.epoch_proper valid.date.proper).mpr rfl
  refine ⟨counted, read, t.instant_moment, fun p written => ?_⟩
  have answer (now : Int) : (Profile.bearer p).isExpired now = .ok (decide (t.microseconds ≤ now)) := by
    rw [isExpired_of_read written read, t.instant_moment]
  refine ⟨answer, fun now later order expired => ?_⟩
  rw [answer, Except.ok.injEq, decide_eq_true_iff] at expired ⊢
  exact Int.le_trans expired order

/-- Seven digits of a fraction are cut to six, and the offset is taken off: the
token expires in the last microsecond of the nineteenth of October 2023, in
universal time. -/
theorem early_morning_ahead_of_universal_time :
    let t : Timestamp := ⟨⟨2023, 10, 20⟩, 5, 29, 59, "9999999".toList, .signed false 5 30⟩
    let s := " 2023-10-20T05:29:59.9999999+05:30\n"
    let p : BearerProfile := ⟨1, "https://sharing.example.com", "token", .str s⟩
    t.Valid ∧ readExpiration? s = some t.moment ∧ t.microseconds = 1697759999999999 ∧
      (Profile.bearer p).isExpired 1697759999999998 = .ok false ∧
      (Profile.bearer p).isExpired 1697759999999999 = .ok true := by
  intro t s p
  have digits : t.fraction.all Char.isDigit = true := by decide
  have valid : t.Valid := ⟨by decide, by decide, by decide, by decide, List.all_eq_true.mp digits, by decide, by decide⟩
  have front : ∀ c ∈ [' '], Text.isBlank c = true := List.forall_mem_singleton.mpr (by decide)
  have back : ∀ c ∈ ['\n'], Text.isBlank c = true := List.forall_mem_singleton.mpr (by decide)
  have written : String.ofList ([' '] ++ t.chars ++ ['\n']) = s := by decide +kernel
  have exact := expiration_times_are_exact valid front back
  rw [written] at exact
  obtain ⟨-, read, instant, expires⟩ := exact
  obtain ⟨answer, -⟩ := expires p rfl
  have counted : t.microseconds = 1697759999999999 := by
    rw [← instant]
    decide
  refine ⟨valid, read, counted, ?_, ?_⟩
  · rw [answer, counted]
    rfl
  · rw [answer, counted]
    rfl

end SharedTables.Profile
