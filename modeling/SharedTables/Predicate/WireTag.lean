import SharedTables.Text.Blank
import SharedTables.Text.Case

/-! The types of values in a listing request. -/
namespace SharedTables

/-- A type of values that a listing request can name. -/
inductive WireTag
  | int
  | long
  | float
  | double
  | string
  | boolean
  | date
  | timestamp
  deriving DecidableEq, Repr

namespace WireTag

/-- The name of a tag. -/
def name : WireTag → String
  | .int => "int"
  | .long => "long"
  | .float => "float"
  | .double => "double"
  | .string => "string"
  | .boolean => "boolean"
  | .date => "date"
  | .timestamp => "timestamp"

/-- The names that engines use for a type, in lower case. -/
def engineNames : List (String × WireTag) := [
  ("int", .int), ("integer", .int), ("int32", .int),
  ("bigint", .long), ("long", .long), ("int64", .long),
  ("float", .float), ("real", .float), ("float32", .float),
  ("double", .double), ("float64", .double),
  ("string", .string), ("varchar", .string), ("utf8", .string),
  ("boolean", .boolean), ("bool", .boolean),
  ("date", .date), ("timestamp", .timestamp)]

/-- `normalize_value_type`: the tag for an engine's type name; case and surrounding white space do
not matter. -/
def ofEngine? (type : String) : Option WireTag :=
  engineNames.lookup (Text.lower (Text.trim type))

end WireTag
end SharedTables
