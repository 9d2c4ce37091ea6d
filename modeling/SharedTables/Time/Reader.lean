import SharedTables.Time.DateTime

/-! Days and times read from text: extended and basic dates, weeks, one separator of any kind, and a
time of day that may stop after any field and carry a fraction and an offset. A text ends at its
first null character, and one stray character of ASCII may stand between a time and its offset. -/
namespace SharedTables.DateTime

/-- The value of two digits at the front of a text, and the rest. -/
def twoDigits? : List Char → Option (Nat × List Char)
  | a :: b :: rest =>
    if a.isDigit && b.isDigit then some ((a.toNat - 48) * 10 + (b.toNat - 48), rest) else none
  | _ => none

/-- The number written by digits. -/
def digitsNumber (cs : List Char) : Nat := cs.foldl (fun n c => 10 * n + (c.toNat - 48)) 0

/-- The day of a week: a digit, after a hyphen in the extended form. Without a text for it the day
is Monday. -/
def weekDay? (extended : Bool) : List Char → Option Nat
  | [] => some 1
  | '-' :: d :: _ => if extended && d.isDigit then some (d.toNat - 48) else none
  | d :: _ => if !extended && d.isDigit then some (d.toNat - 48) else none

/-- Month and day after a year; the whole text is used. -/
def monthDay? (year : Nat) (extended : Bool) (cs : List Char) : Option Date := do
  let (month, cs) ← twoDigits? cs
  let cs ← if extended then (match cs with | '-' :: rest => some rest | _ => none) else some cs
  let (day, cs) ← twoDigits? cs
  if cs.isEmpty then some ⟨year, month, day⟩ else none

/-- A date that fills a text: a year, then a week and perhaps its day, or a month and a day. Hyphens
stand everywhere or nowhere. -/
def readDate? (cs : List Char) : Option Date := do
  let (century, cs) ← twoDigits? cs
  let (rest, cs) ← twoDigits? cs
  let year := century * 100 + rest
  let (extended, cs) := match cs with
    | '-' :: rest => (true, rest)
    | _ => (false, cs)
  match cs with
  | 'W' :: cs =>
    let (week, cs) ← twoDigits? cs
    let day ← weekDay? extended cs
    Date.ofWeek? year week day
  | _ => monthDay? year extended cs

/-- Where the date of a text ends. Week dates need a look ahead: a hyphen after the week belongs to
the date only if a single digit follows it, and a week without hyphens is followed by its day only if
the number of digits after the week is one or even. -/
def dateLength (cs : List Char) : Nat :=
  if cs.length = 7 then 7
  else if cs[4]? = some '-' then
    if cs[5]? = some 'W' then
      if cs[8]? = some '-' then
        if (cs[10]?.map Char.isDigit).getD false then 8 else 10
      else 8
    else 10
  else if cs[4]? = some 'W' then
    let digits := ((cs.drop 7).takeWhile Char.isDigit).length
    if digits < 2 then 7 + digits
    else if digits % 2 = 1 then 7 else 8
  else 8

/-- A time of day as it was written, and whether something is left over after it. -/
structure WrittenTime where
  time : TimeOfDay
  leftover : Bool

/-- The fraction of a second: up to six digits count, later ones are dropped, and what follows them
is left over. -/
def readFraction? (time : TimeOfDay) (next : Char) (cs : List Char) : Option WrittenTime :=
  let shown := cs.take 6
  if shown.all Char.isDigit then
    let micros := digitsNumber shown * Nat.pow 10 (6 - shown.length)
    let after := (cs.drop 6).dropWhile Char.isDigit
    some ⟨{ time with microsecond := micros }, after.headD next != '\x00'⟩
  else none

/-- Replaces the hour, the minute or the second. -/
def setField (time : TimeOfDay) (field value : Nat) : TimeOfDay :=
  match field with
  | 0 => { time with hour := value }
  | 1 => { time with minute := value }
  | _ => { time with second := value }

/-- The fields of a time from a given one on; colons stand between all fields or between none, and a
point or a comma after any field begins a fraction of a second. The text of the time is followed by
the character `next`. -/
def readFields? (next : Char) : Nat → Nat → Bool → TimeOfDay → List Char → Option WrittenTime
  | 0, _, _, time, cs => readFraction? time next cs
  | left + 1, field, separated, time, cs => do
    let (value, cs) ← twoDigits? cs
    let time := setField time field value
    match cs with
    | [] => some ⟨time, next != '\x00'⟩
    | [c] => if c.toNat < 128 then some ⟨time, c != '\x00'⟩ else none
    | c :: rest =>
      let separated := if field = 0 then c = ':' else separated
      if separated && c = ':' then readFields? next left (field + 1) separated time rest
      else if c = '.' || c = ',' then readFraction? time next rest
      else if separated then none
      else readFields? next left (field + 1) separated time (c :: rest)

/-- A time of day in a text that is followed by the character `next`. -/
def readTimeOfDay? (next : Char) (cs : List Char) : Option WrittenTime :=
  readFields? next 3 0 true ⟨0, 0, 0, 0⟩ cs

/-- Whether a character begins an offset. -/
def beginsOffset (c : Char) : Bool := c = '+' || c = '-' || c = 'Z'

/-- The offset after its sign; whole seconds of zero mean universal time. -/
def readOffset? (negative : Bool) (cs : List Char) : Option Int := do
  let written ← readTimeOfDay? '\x00' cs
  if written.leftover then failure
  let micros := written.time.microseconds
  if micros / 1000000 = 0 then pure 0
  else pure (if negative then -(micros : Int) else micros)

/-- A time of day with an optional offset. -/
def readTime? (cs : List Char) : Option (TimeOfDay × Option Int) :=
  let time := cs.takeWhile (!beginsOffset ·)
  match cs.dropWhile (!beginsOffset ·) with
  | [] => do
    let written ← readTimeOfDay? '\x00' time
    if written.leftover then none else some (written.time, none)
  | sign :: offset => do
    let written ← readTimeOfDay? sign time
    if sign = 'Z' then
      if offset.headD '\x00' = '\x00' then some (written.time, some 0) else none
    else
      let offset ← readOffset? (sign = '-') offset
      some (written.time, some offset)

/-- A day with an optional time of day and offset. -/
def read? (s : String) : Option DateTime := do
  let cs := s.toList
  let length := dateLength cs
  let date ← readDate? (cs.take length)
  let (time, offset) ← match cs.drop length with
    | [] => some (⟨0, 0, 0, 0⟩, none)
    | _ :: time => readTime? time
  let t : DateTime := ⟨date, time, offset⟩
  if t.Valid then some t else none

end SharedTables.DateTime
