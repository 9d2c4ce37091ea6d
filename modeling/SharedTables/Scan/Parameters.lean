import SharedTables.Predicate.Basic
import SharedTables.Scan.Version

/-! Everything about a scan that can change its result. -/
namespace SharedTables

/-- `ScanParameters`: the parameters of a scan. Both lists of predicates are conjunctions. -/
structure ScanParameters where
  partition : List Predicate
  data : List Predicate
  limit : Option Int
  version : Option Version
  /-- Whether the scan reads the changes of a version range. -/
  changes : Bool
  deriving Repr

/-- Why parameters are refused. -/
inductive ParameterError
  | negativeLimit (limit : Int)
  | rangeRequired
  | rangeWithoutChanges
  deriving DecidableEq, Repr

/-- The words for an error. -/
def ParameterError.message : ParameterError → String
  | .negativeLimit limit => "limit must be >= 0, got " ++ toString limit
  | .rangeRequired => "A change data feed scan requires a VersionRange"
  | .rangeWithoutChanges => "A VersionRange is only valid for a change data feed scan"

namespace ScanParameters

/-- Whether a version range is given. -/
def hasRange (p : ScanParameters) : Bool := (p.version.map Version.isRange).getD false

/-- `ScanParameters.__post_init__`: parameters are sound when the limit is not negative and a
version range is given exactly for the changes of a table. -/
def check (p : ScanParameters) : Except ParameterError ScanParameters :=
  match p.limit with
  | some limit =>
    if limit < 0 then .error (.negativeLimit limit) else checkRange
  | none => checkRange
where
  /-- The part of the check that concerns the version. -/
  checkRange : Except ParameterError ScanParameters :=
    if p.changes && !p.hasRange then .error .rangeRequired
    else if !p.changes && p.hasRange then .error .rangeWithoutChanges
    else .ok p

end ScanParameters
end SharedTables
