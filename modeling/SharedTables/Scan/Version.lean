/-! Which state of a table a scan reads. -/
namespace SharedTables

/-- A selector of table versions. -/
inductive Version
  /-- The table as of a version. -/
  | asOf (version : Int)
  /-- The table as of a time, which is passed on as it is written. -/
  | atTime (timestamp : String)
  /-- The changes from a version on, up to an optional last one. -/
  | range (start : Int) (last : Option Int)
  /-- Something that is no selector; its kind is known. -/
  | foreign (kind : String)
  deriving DecidableEq, Repr

/-- Why a selector is refused. -/
inductive VersionError
  | negativeStart (start : Int)
  | lastBeforeStart (last start : Int)
  | notASelector (kind : String)
  deriving DecidableEq, Repr

/-- The words for an error. -/
def VersionError.message : VersionError → String
  | .negativeStart start => "start_version must be >= 0, got " ++ toString start
  | .lastBeforeStart last start =>
    "end_version (" ++ toString last ++ ") must be >= start_version (" ++ toString start ++ ")"
  | .notASelector kind => "Not a version selector: " ++ kind

namespace Version

/-- `VersionRange.__post_init__`: a range of versions, which starts at zero or later and does not
end before it starts. -/
def range? (start : Int) (last : Option Int) : Except VersionError Version :=
  if start < 0 then .error (.negativeStart start)
  else
    match last with
    | some last =>
      if last < start then .error (.lastBeforeStart last start) else .ok (.range start (some last))
    | none => .ok (.range start none)

/-- Whether a selector is a range. -/
def isRange : Version → Bool
  | .range _ _ => true
  | _ => false

/-- The text of a range. -/
def rangeKey (start : Int) (last : Option Int) : String :=
  "range:" ++ toString start ++ ":" ++
    (match last with
      | some last => toString last
      | none => "none")

/-- `canonical_version`: the text of a selector; without one the latest version is meant. -/
def key : Option Version → Except VersionError String
  | none => .ok "latest"
  | some (.asOf version) => .ok ("version:" ++ toString version)
  | some (.atTime timestamp) => .ok ("timestamp:" ++ timestamp)
  | some (.range start last) => .ok (rangeKey start last)
  | some (.foreign kind) => .error (.notASelector kind)

end Version
end SharedTables
