import SharedTables.Number.Digits
import SharedTables.Text.Percent
import SharedTables.Text.Split
import SharedTables.Time.DateTime

/-! Paths of remote files: a scheme, the location of a table, the id of a file and a commit version.
The location may hold any characters; the id is percent coded, so the last two segments are clear. -/
namespace SharedTables

/-- What the path of a file says. -/
structure FilePath where
  tableLocation : String
  fileId : String
  commitVersion : Int
  deriving DecidableEq, Repr

/-- Why a text is no path, or a file has none. -/
inductive PathError
  | emptyFileId
  | otherScheme (scheme path : String)
  | malformed (scheme path : String)
  | malformedVersion (scheme path : String)
  deriving DecidableEq, Repr

/-- The words for an error. -/
def PathError.message : PathError → String
  | .emptyFileId => "file_id must not be empty"
  | .otherScheme scheme path => "Not a " ++ scheme ++ " path: " ++ path
  | .malformed scheme path => "Malformed " ++ scheme ++ " path: " ++ path
  | .malformedVersion scheme path => "Malformed commit version in " ++ scheme ++ " path: " ++ path

namespace FilePath

/-- The scheme that is used when none is chosen. -/
def defaultScheme : String := "delta-sharing"

/-- `encode`: the path of a file. -/
def encode (scheme : String) (path : FilePath) : Except PathError String :=
  if path.fileId = "" then .error .emptyFileId
  else
    .ok (scheme ++ ":/" ++ path.tableLocation ++ "/" ++ Text.percentEncode path.fileId ++ "/" ++
      toString path.commitVersion)

/-- The text after a scheme. -/
def afterScheme? (scheme path : String) : Option (List Char) :=
  let lead := scheme.toList ++ [':', '/']
  if lead.isPrefixOf path.toList then some (path.toList.drop lead.length) else none

/-- Splits the text after a scheme into location, coded id and version. -/
def segments? (cs : List Char) : Option (List Char × List Char × List Char) := do
  let (before, version) ← Text.splitLast? '/' cs
  let (location, id) ← Text.splitLast? '/' before
  if location.isEmpty || id.isEmpty then none else some (location, id, version)

/-- `decode`: reads the path of a file. -/
def decode (scheme path : String) : Except PathError FilePath :=
  match afterScheme? scheme path with
  | none => .error (.otherScheme scheme path)
  | some body =>
    match segments? body with
    | none => .error (.malformed scheme path)
    | some (location, id, version) =>
      match readInt? (String.ofList version) with
      | none => .error (.malformedVersion scheme path)
      | some version =>
        .ok ⟨String.ofList location, Text.percentDecode (String.ofList id), version⟩

end FilePath

/-- `table_location_with_fingerprint`: the location of a table with the fingerprint of a scan; each
different scan has its own. -/
def locationWithFingerprint (location fingerprint : String) : String :=
  if fingerprint = "" then location else location ++ "_" ++ fingerprint

/-- The mark of a location that no other scan shares: a time to the second and a random token. -/
def uniqueMark (date : Date) (time : TimeOfDay) (token : String) : String :=
  let stamp := toString date.year :: [date.month, date.day].map two ++
    "_" :: [time.hour, time.minute, time.second].map two
  String.join stamp ++ "_" ++ token
where
  /-- Two digits. -/
  two (n : Nat) : String := String.ofList (decimalFixed 2 n)

/-- `unique_table_location`: the location of a table with the mark of one scan. -/
def markedLocation (location mark : String) : String := location ++ "_" ++ mark

end SharedTables
