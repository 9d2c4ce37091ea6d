import SharedTables.Json.Display
import SharedTables.Json.Reader
import SharedTables.Schema.Basic
import SharedTables.Text.Case

/-! Schemas read from their JSON description. -/
namespace SharedTables

/-- Why a description gives no schema. -/
inductive SchemaError
  /-- The text is not JSON. -/
  | notJson (e : Json.ReadError) (source : String)
  /-- The text describes no structure. -/
  | notAStruct
  /-- A type is not known. -/
  | unsupportedType (type : Json)
  /-- A decimal has no or more than thirty-eight digits. -/
  | precisionOutOfRange
  /-- The precision or the scale of a decimal does not fit a machine word. -/
  | numberTooLarge
  /-- A member is missing. -/
  | missingMember (name : String)
  /-- Fields are not a list of objects, or a name is not a text. -/
  | malformedField
  /-- A type is neither a text nor an object. -/
  | malformedType
  deriving Repr

/-- The words for an error, where it has any. -/
def SchemaError.message : SchemaError → Option String
  | .notJson e source => some ("Schema string is not valid JSON: " ++ e.message source.toList)
  | .notAStruct => some "Schema string must describe a struct"
  | .unsupportedType type => some ("Unsupported column type: " ++ type.asText)
  | _ => none

namespace Schema

/-- The names of types without parts. -/
def plainTypes : List (String × PlainType) := [
  ("string", .string), ("long", .int64), ("integer", .int32), ("short", .int16), ("byte", .int8),
  ("float", .float), ("double", .double), ("boolean", .bool), ("binary", .binary),
  ("date", .date), ("timestamp", .timestamp), ("timestamp_ntz", .localTimestamp)]

/-- A number in decimal digits of any script with white space around it. -/
def paddedNumber? (cs : List Char) : Option Nat :=
  let digits := Text.trimChars cs
  if digits.isEmpty then none else (digits.mapM Text.digitValue?).map ofDigits

/-- The two numbers of a decimal type: precision and scale between parentheses. -/
def decimalNumbers? (name : List Char) : Option (Nat × Nat) :=
  let lead := "decimal(".toList
  if lead.isPrefixOf name && name.getLast? = some ')' then
    let (precision, scale) := splitFirst (· = ',') ((name.drop lead.length).dropLast)
    match scale with
    | some scale => do
      let precision ← paddedNumber? precision
      let scale ← paddedNumber? scale
      pure (precision, scale)
    | none => none
  else none

/-- The first number that does not fit a machine word. -/
def wordLimit : Nat := 2147483648

/-- The type of a name; case and white space around it do not matter. -/
def namedType (name : String) : Except SchemaError ColumnType :=
  let plain := Text.lower (Text.trim name)
  match plainTypes.lookup plain with
  | some type => .ok (.plain type)
  | none =>
    match decimalNumbers? plain.toList with
    | some (precision, scale) =>
      if wordLimit ≤ precision ∨ wordLimit ≤ scale then .error .numberTooLarge
      else if precision < 1 ∨ 38 < precision then .error .precisionOutOfRange
      else .ok (.decimal precision scale)
    | none => .error (.unsupportedType (.str name))

/-- The flag of a member: whether its value counts as present, and true without the member. -/
def flag (name : String) (members : List (String × Json)) : Bool :=
  match Json.member? name members with
  | some value => value.truthy
  | none => true

/-- The value of a member is smaller than the members. -/
theorem sizeOf_member? {name : String} {members : List (String × Json)} {value : Json}
    (h : Json.member? name members = some value) : sizeOf value < sizeOf members := by
  induction members with
  | nil => simp [Json.member?] at h
  | cons member rest ih =>
    obtain ⟨key, other⟩ := member
    rw [Json.member?] at h
    split at h
    · cases h; simp; omega
    · have := ih h; simp; omega

mutual
/-- `_to_arrow_type`: the type that a value describes. -/
def readType : Json → Except SchemaError ColumnType
  | .str name => namedType name
  | .obj members =>
    match Json.member? "type" members with
    | some (.str "struct") =>
      match _fields : Json.member? "fields" members with
      | some fields => (readFields fields).map .struct
      | none => .ok (.struct [])
    | some (.str "array") =>
      match _element : Json.member? "elementType" members with
      | some element => (readType element).map (.list · (flag "containsNull" members))
      | none => .error (.missingMember "elementType")
    | some (.str "map") =>
      match _key : Json.member? "keyType" members with
      | some key => do
        let keyType ← readType key
        match _value : Json.member? "valueType" members with
        | some value => (readType value).map (.map keyType · (flag "valueContainsNull" members))
        | none => .error (.missingMember "valueType")
      | none => .error (.missingMember "keyType")
    | _ => .error (.unsupportedType (.obj members))
  | _ => .error .malformedType
termination_by value => sizeOf value
decreasing_by all_goals (have smaller := sizeOf_member? ‹_›; simp; omega)

/-- The fields that a value lists; an empty text or object lists none. -/
def readFields : Json → Except SchemaError (List (Field ColumnType))
  | .arr items => readItems items
  | .str s => if s = "" then .ok [] else .error .malformedField
  | .obj members => if members.isEmpty then .ok [] else .error .malformedField
  | _ => .error .malformedField
termination_by value => sizeOf value

/-- The fields that the items of a list describe. -/
def readItems : List Json → Except SchemaError (List (Field ColumnType))
  | [] => .ok []
  | item :: rest => do
    let field ← readField item
    let fields ← readItems rest
    pure (field :: fields)
termination_by items => sizeOf items

/-- `_to_arrow_field`: the field that a value describes. -/
def readField : Json → Except SchemaError (Field ColumnType)
  | .obj members =>
    match Json.member? "name" members, _type : Json.member? "type" members with
    | none, _ => .error (.missingMember "name")
    | some _, none => .error (.missingMember "type")
    | some name, some type => do
      let type ← readType type
      match name with
      | .str name => pure ⟨name, type, flag "nullable" members⟩
      | _ => .error .malformedField
  | _ => .error .malformedField
termination_by value => sizeOf value
decreasing_by have := sizeOf_member? _type; simp; omega
end

/-- The schema that a decoded value describes. -/
def ofJson (value : Json) : Except SchemaError Schema :=
  match value with
  | .obj members =>
    match Json.member? "type" members with
    | some (.str "struct") =>
      match Json.member? "fields" members with
      | some fields => readFields fields
      | none => .ok []
    | _ => .error .notAStruct
  | _ => .error .notAStruct

/-- `schema_from_json`: the schema that a JSON text describes. -/
def ofText (source : String) : Except SchemaError Schema :=
  match Json.read source with
  | .ok value => ofJson value
  | .error e => .error (.notJson e source)

end Schema
end SharedTables
