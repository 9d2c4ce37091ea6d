import SharedTables.Number.Binary64
import SharedTables.Number.Digits

/-! Decoded JSON. Whole numbers and numbers with a point or an exponent are different values, and
members keep the order in which they were first written. -/
namespace SharedTables

/-- A decoded JSON value. -/
inductive Json
  | null
  | bool (value : Bool)
  | int (value : Int)
  | real (value : Binary64)
  | str (value : String)
  | arr (items : List Json)
  | obj (members : List (String × Json))
  deriving Repr, Inhabited

namespace Json

/-- The value of a member of an object. -/
def member? (name : String) : List (String × Json) → Option Json
  | [] => none
  | (key, value) :: rest => if key = name then some value else member? name rest

/-- The value of a member; `none` also when the value is no object. -/
def get? (name : String) : Json → Option Json
  | .obj members => member? name members
  | _ => none

/-- Whether a value counts as present: empty, zero, false and null do not. -/
def truthy : Json → Bool
  | .null => false
  | .bool b => b
  | .int n => n != 0
  | .real x => !x.isZero
  | .str s => s != ""
  | .arr items => !items.isEmpty
  | .obj members => !members.isEmpty

/-- Writes a member: a name that occurs already keeps its place and takes the new value. -/
def setMember (name : String) (value : Json) : List (String × Json) → List (String × Json)
  | [] => [(name, value)]
  | (key, old) :: rest =>
    if key = name then (key, value) :: rest else (key, old) :: setMember name value rest

end Json
end SharedTables
