import SharedTables.Time.Calendar

/-! A day and a time of day, with or without an offset from universal time, and their texts. -/
namespace SharedTables

/-- A time of day to the microsecond. -/
structure TimeOfDay where
  hour : Nat
  minute : Nat
  second : Nat
  microsecond : Nat
  deriving DecidableEq, Repr, Inhabited

/-- A day and a time of day; the offset is in microseconds east of universal time. -/
structure DateTime where
  date : Date
  time : TimeOfDay
  offset : Option Int
  deriving DecidableEq, Repr, Inhabited

/-- The last `width` decimal digits of a number. -/
def decimalFixed : Nat → Nat → List Char
  | 0, _ => []
  | width + 1, n => decimalFixed width (n / 10) ++ [Char.ofNat (48 + n % 10)]

/-- The number of microseconds of a day. -/
def microsecondsPerDay : Nat := 86400 * 1000000

namespace TimeOfDay

/-- Hours run to 23, minutes and seconds to 59. -/
def Valid (time : TimeOfDay) : Prop :=
  time.hour < 24 ∧ time.minute < 60 ∧ time.second < 60 ∧ time.microsecond < 1000000

instance (time : TimeOfDay) : Decidable time.Valid := by unfold Valid; infer_instance

/-- The microseconds since midnight. -/
def microseconds (time : TimeOfDay) : Nat :=
  ((time.hour * 60 + time.minute) * 60 + time.second) * 1000000 + time.microsecond

/-- The fraction of a second, left out when it is zero. -/
def fractionChars (microsecond : Nat) : List Char :=
  if microsecond = 0 then [] else '.' :: decimalFixed 6 microsecond

/-- Hours, minutes and seconds with the fraction. -/
def chars (time : TimeOfDay) : List Char :=
  decimalFixed 2 time.hour ++ ':' :: decimalFixed 2 time.minute ++ ':' ::
    decimalFixed 2 time.second ++ fractionChars time.microsecond

end TimeOfDay

namespace Date

/-- Year, month and day. -/
def chars (date : Date) : List Char :=
  decimalFixed 4 date.year ++ '-' :: decimalFixed 2 date.month ++ '-' :: decimalFixed 2 date.day

/-- The text of a date. -/
def text (date : Date) : String := String.ofList date.chars

end Date

namespace DateTime

/-- An offset: sign, hours and minutes, then seconds and a fraction where they are not zero. -/
def offsetChars (offset : Int) : List Char :=
  let micros := offset.natAbs
  let seconds := micros / 1000000
  let fraction := micros % 1000000
  (if offset < 0 then '-' else '+') :: decimalFixed 2 (seconds / 3600) ++ ':' ::
    decimalFixed 2 (seconds / 60 % 60) ++
    (if seconds % 60 = 0 ∧ fraction = 0 then []
     else ':' :: decimalFixed 2 (seconds % 60) ++ TimeOfDay.fractionChars fraction)

/-- The text of a day and a time. -/
def text (t : DateTime) : String :=
  String.ofList (t.date.chars ++ 'T' :: t.time.chars ++ (t.offset.map offsetChars).getD [])

/-- Days and times in range, and an offset of less than a day. -/
def Valid (t : DateTime) : Prop :=
  t.date.Valid ∧ t.time.Valid ∧ ∀ offset ∈ t.offset, offset.natAbs < microsecondsPerDay

instance (t : DateTime) : Decidable t.Valid := by unfold Valid; infer_instance

/-- The day number of the first of January 1970. -/
def epochDay : Int := 719163

/-- The microseconds since the start of 1970 in universal time; without an offset the time is taken
to be universal. -/
def instant (t : DateTime) : Int :=
  ((t.date.number : Int) - epochDay) * microsecondsPerDay + t.time.microseconds - t.offset.getD 0

end DateTime
end SharedTables
