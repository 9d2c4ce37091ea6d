import SharedTables.Digest.Sha256
import SharedTables.Predicate.Canonical
import SharedTables.Scan.Parameters

/-! Fingerprints of scans: a digest of everything that shapes the listing request, so that equal
requests share one batch of links and different requests do not. -/
namespace SharedTables.Fingerprint

/-- `_digest`, what it hashes: named fields as one text from which each field can be told apart. -/
def fieldsText (fields : List (String × String)) : String :=
  String.join (fields.map fun field => field.1 ++ "=" ++ atom field.2 ++ ";")

/-- The text of a row limit. -/
def limitText : Option Int → String
  | some limit => toString limit
  | none => "none"

/-- Why a scan has no fingerprint. -/
inductive Error
  /-- A point in time was expected. -/
  | rangeGiven
  | version (e : VersionError)
  deriving DecidableEq, Repr

/-- The words for an error. -/
def Error.message : Error → String
  | .rangeGiven => "Use range_fingerprint for a version range"
  | .version e => e.message

/-- The fields of a scan of one version of a table. -/
def snapshotFields (predicates : List Predicate) (limit : Option Int) (versionKey : String) :
    List (String × String) :=
  [("mode", "snapshot"), ("predicates", Predicate.canonicalConjunction predicates),
    ("limit", limitText limit), ("version", versionKey)]

/-- The fields of a scan of the changes in a version range. Predicates and limits are not among
them: every change of the range is listed. -/
def rangeFields (start : Int) (last : Option Int) : List (String × String) :=
  [("mode", "range"), ("version", Version.rangeKey start last)]

/-- The text that is digested for a scan of one version. -/
def snapshotText (predicates : List Predicate) (limit : Option Int) (version : Option Version) :
    Except Error String :=
  if (version.map Version.isRange).getD false then .error .rangeGiven
  else
    match Version.key version with
    | .ok key => .ok (fieldsText (snapshotFields predicates limit key))
    | .error e => .error (.version e)

/-- The text that is digested for a scan of changes. -/
def rangeText (start : Int) (last : Option Int) : String := fieldsText (rangeFields start last)

/-- The digest of a text. -/
def digest (text : String) : String := Sha256.hexDigest text.toUTF8.toList

/-- `snapshot_fingerprint`: the fingerprint of a scan of one version. -/
def snapshot (predicates : List Predicate) (limit : Option Int) (version : Option Version) :
    Except Error String :=
  (snapshotText predicates limit version).map digest

/-- The fingerprint of a scan of the changes in a range that has been checked. -/
def ofRange (start : Int) (last : Option Int) : String := digest (rangeText start last)

/-- `range_fingerprint`: the fingerprint of a scan of the changes in a range. -/
def range (start : Int) (last : Option Int) : Except Error String :=
  match Version.range? start last with
  | .ok _ => .ok (ofRange start last)
  | .error e => .error (.version e)

/-- `scan_fingerprint`: the fingerprint of a scan; other predicates than its own may be given to
count. -/
def ofParameters (p : ScanParameters) (predicates : Option (List Predicate)) :
    Except Error String :=
  match p.changes, p.version with
  | true, some (.range start last) => range start last
  | _, version => snapshot (predicates.getD (p.partition ++ p.data)) p.limit version

end SharedTables.Fingerprint
