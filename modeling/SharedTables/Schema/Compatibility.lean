import SharedTables.Schema.Basic
import SharedTables.Text.Quoted

/-! Whether a table is still the one a scan was planned against, and the columns that an engine
derives from the place of a file. -/
namespace SharedTables

/-- How closely the live schema has to match the planned one. -/
inductive SchemaMatch
  /-- Field by field, in order. -/
  | exact
  /-- Every planned field still exists with its type; new fields do not matter. -/
  | structural
  deriving DecidableEq, Repr

/-- How a table differs from the plan. -/
inductive SchemaMismatch
  | partitionColumns (planned live : List String)
  | schema
  | missingField (name : String)
  | changedType (name planned live : String)
  deriving DecidableEq, Repr

/-- A list of names in a message. -/
def displayNames (names : List String) : String :=
  "[" ++ ", ".intercalate (names.map Text.quoted) ++ "]"

/-- The words for a difference. -/
def SchemaMismatch.detail : SchemaMismatch → String
  | .partitionColumns planned live =>
    "partition columns changed from " ++ displayNames planned ++ " to " ++ displayNames live
  | .schema => "schema changed"
  | .missingField name => "field '" ++ name ++ "' no longer exists"
  | .changedType name planned live =>
    "field '" ++ name ++ "' changed type from " ++ planned ++ " to " ++ live

/-- The advice that goes with every difference, and its detail. -/
def mismatchMessage (detail : String) : String :=
  "The schema or partition columns of your table has changed since your\n" ++
    "DataFrame was created. Please redefine your DataFrame" ++
    (if detail = "" then "" else " (" ++ detail ++ ")")

namespace Schema

/-- Checks one planned field against the live schema. -/
def checkField (live : Schema) (field : Field ColumnType) : Except SchemaMismatch Unit :=
  match live.find? field.name with
  | none => .error (.missingField field.name)
  | some found =>
    if found.type.same field.type then .ok ()
    else .error (.changedType field.name field.type.text found.type.text)

/-- Checks every planned field against the live schema, in order. -/
def checkFields (live : Schema) : Schema → Except SchemaMismatch Unit
  | [] => .ok ()
  | field :: rest =>
    match checkField live field with
    | .ok () => checkFields live rest
    | .error e => .error e

/-- `check_schema_compatible`: checks a live table against the plan. Partition columns have to be
the same in every mode. -/
def checkCompatible (mode : SchemaMatch) (planned live : Schema)
    (plannedPartitions livePartitions : List String) : Except SchemaMismatch Unit :=
  if plannedPartitions ≠ livePartitions then
    .error (.partitionColumns plannedPartitions livePartitions)
  else
    match mode with
    | .exact => if ColumnType.sameFields planned live then .ok () else .error .schema
    | .structural => checkFields live planned

/-- A partition column that the schema does not have, or has twice. -/
structure UnknownPartition where
  name : String
  deriving DecidableEq, Repr

/-- The words for the error. -/
def UnknownPartition.message (e : UnknownPartition) : String :=
  "Partition column '" ++ e.name ++ "' is not in the table schema"

/-- `partition_schema`: the partition columns of a table in declared order. -/
def partitionSchema (schema : Schema) : List String → Except UnknownPartition Schema
  | [] => .ok []
  | name :: rest =>
    match schema.find? name with
    | none => .error ⟨name⟩
    | some field => (partitionSchema schema rest).map (field :: ·)

end Schema
end SharedTables
