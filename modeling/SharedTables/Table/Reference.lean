import SharedTables.Text.Blank
import SharedTables.Text.Quoted
import SharedTables.Text.Split

/-! Names of shared tables, and paths that hold a profile file and the name of a table. -/
namespace SharedTables

/-- A table of a schema of a share. -/
structure TableReference where
  share : String
  schema : String
  name : String
  deriving DecidableEq, Repr, Inhabited

namespace TableReference

/-- The name of a table: its three parts with dots between them. -/
def text (table : TableReference) : String :=
  table.share ++ "." ++ table.schema ++ "." ++ table.name

/-- Reads a name of three parts, none of them blank; white space around a part is left out. -/
def ofChars? (cs : List Char) : Option TableReference :=
  match (Text.splitAll '.' cs).map Text.trimChars with
  | [share, schema, name] =>
    if share.isEmpty || schema.isEmpty || name.isEmpty then none
    else some ⟨String.ofList share, String.ofList schema, String.ofList name⟩
  | _ => none

/-- Why a text names no table. -/
structure Malformed where
  text : String
  deriving DecidableEq, Repr

/-- The words for the error. -/
def Malformed.message (e : Malformed) : String :=
  "Table reference must be 'share.schema.table', got: " ++ Text.quoted e.text

/-- `TableReference.from_string`: reads the name of a table. -/
def ofText (s : String) : Except Malformed TableReference :=
  match ofChars? s.toList with
  | some table => .ok table
  | none => .error ⟨s⟩

end TableReference

/-- A profile file and a table it gives access to. -/
structure TablePath where
  profileFile : String
  table : TableReference
  deriving DecidableEq, Repr

namespace TablePath

/-- Why a text is no path of a table. -/
structure Malformed where
  text : String
  deriving DecidableEq, Repr

/-- The words for the error. -/
def Malformed.message (e : Malformed) : String :=
  "Invalid table path: " ++ e.text ++
    ". The expected format is '<profile-file-path>#<share>.<schema>.<table>'"

/-- `split_table_path`: reads a path, in which the profile file stands before the last number sign
and the table after it. -/
def ofText (s : String) : Except Malformed TablePath :=
  match Text.splitLast? '#' s.toList with
  | some (file, name) =>
    if file.isEmpty then .error ⟨s⟩
    else
      match TableReference.ofChars? name with
      | some table => .ok ⟨String.ofList file, table⟩
      | none => .error ⟨s⟩
  | none => .error ⟨s⟩

/-- The path as text. -/
def text (path : TablePath) : String := path.profileFile ++ "#" ++ path.table.text

end TablePath
end SharedTables
