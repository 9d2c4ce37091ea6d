import SharedTables.Number.Binary64Text

/-! Clock readings and lengths of time in seconds. They are exact rational numbers, and every sum
and difference is rounded to a binary number of sixty-four bits. Past the largest of these there is
one more, which stands for a time without end. -/
namespace SharedTables

/-- A number of seconds. -/
abbrev Seconds := Rat

namespace Seconds

/-- A time without end. -/
def endless : Seconds := ((Nat.pow 2 1024 : Nat) : Rat)

/-- The nearest binary number of seconds, without end past the largest one. -/
def round (exact : Rat) : Seconds :=
  let seconds := roundRat exact
  if seconds < endless then seconds else endless

/-- A later reading. -/
def later (now span : Seconds) : Seconds := round (now + span)

/-- The time between two readings; there is no end to it when the second is never reached. -/
def between (start stop : Seconds) : Seconds :=
  if stop = endless then endless else round (stop - start)

/-- A number of milliseconds in seconds. -/
def ofMillis (millis : Rat) : Seconds := round (millis / 1000)

/-- Whole milliseconds, cut towards zero. -/
def toMillis (seconds : Seconds) : Int :=
  let millis := roundRat (seconds * 1000)
  millis.num.tdiv millis.den

/-- Whole milliseconds, as long as there are binary numbers for them. -/
def toMillis? (seconds : Seconds) : Option Int :=
  if (seconds.toMillis.natAbs : Seconds) < endless then some seconds.toMillis else none

/-- The text of a number of seconds. -/
def text (seconds : Seconds) : String := (Binary64.ofRat seconds).text

end Seconds
end SharedTables
