import SharedTables.Number.Binary64Text
import SharedTables.Number.Decimal
import SharedTables.Text.Quoted
import SharedTables.Time.DateTime

/-! Values that a predicate compares with, their text in a listing request, and their display where
no such text exists. -/
namespace SharedTables

/-- A literal value. -/
inductive Literal
  | null
  | bool (value : Bool)
  | int (value : Int)
  | real (value : Binary64)
  | decimal (value : Decimal)
  | date (value : Date)
  | dateTime (value : DateTime)
  | text (value : String)
  | bytes (value : List UInt8)
  | list (items : List Literal)
  deriving Repr, Inhabited

namespace Literal

/-- `render_literal`: the text of a value in a listing request; null, bytes and lists have none. -/
def render : Literal → Option String
  | .null => none
  | .bool b => some (if b then "true" else "false")
  | .int n => some (toString n)
  | .real x => some x.text
  | .decimal d => some d.text
  | .date d => some d.text
  | .dateTime t => some t.text
  | .text s => some s
  | .bytes _ => none
  | .list _ => none

/-- A list of displayed arguments. -/
def arguments (xs : List String) : String := ", ".intercalate xs

/-- The display of a length of time: whole days, then the seconds and microseconds of a day, each
left out when zero. -/
def displaySpan (micros : Int) : String :=
  let days := micros / microsecondsPerDay
  let rest := micros % microsecondsPerDay
  let parts := [("days", days), ("seconds", rest / 1000000), ("microseconds", rest % 1000000)]
  let shown := (parts.filter (·.2 != 0)).map fun part => part.1 ++ "=" ++ toString part.2
  "datetime.timedelta(" ++ (if shown.isEmpty then "0" else arguments shown) ++ ")"

/-- The display of an offset. -/
def displayOffset (offset : Int) : String :=
  if offset = 0 then "datetime.timezone.utc"
  else "datetime.timezone(" ++ displaySpan offset ++ ")"

/-- The display of a day and a time: seconds and microseconds only as far as they are needed. -/
def displayDateTime (t : DateTime) : String :=
  let fields := [t.date.year, t.date.month, t.date.day, t.time.hour, t.time.minute]
  let seconds :=
    if t.time.microsecond ≠ 0 then [t.time.second, t.time.microsecond]
    else if t.time.second ≠ 0 then [t.time.second]
    else []
  let offset := match t.offset with
    | some offset => ["tzinfo=" ++ displayOffset offset]
    | none => []
  "datetime.datetime(" ++ arguments ((fields ++ seconds).map toString ++ offset) ++ ")"

mutual
/-- The display of a value. -/
def display : Literal → String
  | .null => "None"
  | .bool b => if b then "True" else "False"
  | .int n => toString n
  | .real x => x.text
  | .decimal d => "Decimal('" ++ d.text ++ "')"
  | .date d => "datetime.date(" ++ arguments ([d.year, d.month, d.day].map toString) ++ ")"
  | .dateTime t => displayDateTime t
  | .text s => Text.quoted s
  | .bytes b => Text.quotedBytes b
  | .list items => "[" ++ arguments (displayAll items) ++ "]"

/-- The displays of the items of a list. -/
def displayAll : List Literal → List String
  | [] => []
  | item :: rest => display item :: displayAll rest
end

end Literal
end SharedTables
