/-! Schemas of tables: fields with a name, a type and whether null may occur.

They stand for the schemas of the Arrow library, which is not part of the program, and rely on what
it documents. Types are values without identity, so a `ColumnType` is the tree of its parts and
nothing else. `equals`, here `ColumnType.same` and `sameFields`, compares these trees: kinds,
precision and scale, and of each part its name, type, null mark and place in the order; notes
attached to fields do not count. `get_field_index`, here `Schema.find?`, answers -1 for a name that
no field has, and also for a name that several fields have. -/
namespace SharedTables

/-- The types of columns that have no parts. -/
inductive PlainType
  | string
  | int64
  | int32
  | int16
  | int8
  | float
  | double
  | bool
  | binary
  | date
  /-- A point in time. -/
  | timestamp
  /-- A day and a time of day somewhere. -/
  | localTimestamp
  deriving DecidableEq, Repr

/-- A named and typed part of a table or of a structure. -/
structure Field (τ : Type) where
  name : String
  type : τ
  nullable : Bool
  deriving DecidableEq, Repr

/-- The type of a column. -/
inductive ColumnType
  | plain (type : PlainType)
  | decimal (precision scale : Nat)
  | list (element : ColumnType) (nullable : Bool)
  | struct (fields : List (Field ColumnType))
  | map (key value : ColumnType) (nullable : Bool)
  deriving Repr

/-- The fields of a table, in order. -/
abbrev Schema := List (Field ColumnType)

/-- The text of a type without parts. -/
def PlainType.text : PlainType → String
  | .string => "string"
  | .int64 => "int64"
  | .int32 => "int32"
  | .int16 => "int16"
  | .int8 => "int8"
  | .float => "float"
  | .double => "double"
  | .bool => "bool"
  | .binary => "binary"
  | .date => "date32[day]"
  | .timestamp => "timestamp[us, tz=UTC]"
  | .localTimestamp => "timestamp[us]"

namespace ColumnType

/-- The mark of a part that null may not fill. -/
def nullMark (nullable : Bool) : String := if nullable then "" else " not null"

mutual
/-- The text of a type. Whether null may occur in a map is not shown. -/
def text : ColumnType → String
  | .plain type => type.text
  | .decimal precision scale =>
    "decimal128(" ++ toString precision ++ ", " ++ toString scale ++ ")"
  | .list element nullable => "list<element: " ++ text element ++ nullMark nullable ++ ">"
  | .struct fields => "struct<" ++ fieldsText fields ++ ">"
  | .map key value _ => "map<" ++ text key ++ ", " ++ text value ++ ">"

/-- The texts of fields, separated by commas. -/
def fieldsText : List (Field ColumnType) → String
  | [] => ""
  | [⟨name, type, nullable⟩] => name ++ ": " ++ text type ++ nullMark nullable
  | ⟨name, type, nullable⟩ :: rest =>
    name ++ ": " ++ text type ++ nullMark nullable ++ ", " ++ fieldsText rest
end

mutual
/-- Whether two types are the same in every part. -/
def same : ColumnType → ColumnType → Bool
  | .plain a, .plain b => a = b
  | .decimal p s, .decimal p' s' => p = p' && s = s'
  | .list a n, .list b n' => same a b && n = n'
  | .struct fs, .struct gs => sameFields fs gs
  | .map k v n, .map k' v' n' => same k k' && same v v' && n = n'
  | _, _ => false

/-- Whether two lists of fields agree in names, types, null marks and order. -/
def sameFields : List (Field ColumnType) → List (Field ColumnType) → Bool
  | [], [] => true
  | ⟨name, type, nullable⟩ :: rest, ⟨name', type', nullable'⟩ :: rest' =>
    name = name' && same type type' && nullable = nullable' && sameFields rest rest'
  | _, _ => false
end

end ColumnType

namespace Schema

/-- The only field of a name; a name that occurs twice belongs to no field. -/
def find? (name : String) (schema : Schema) : Option (Field ColumnType) :=
  match schema.filter (·.name = name) with
  | [field] => some field
  | _ => none

end Schema
end SharedTables
