import SharedTables.Json.Basic
import SharedTables.Text.Blank
import SharedTables.Text.Case

/-! Settings of a process, read from environment variables. A variable that is missing, blank or
malformed leaves a setting at its default. -/
namespace SharedTables

/-- The settings of a process. -/
structure Settings where
  predicateHints : Bool := true
  dataPredicates : Bool := false
  limitPushdown : Bool := true
  linkCache : Bool := true
  structuralMatch : Bool := false
  cachePopulation : String := "eager"
  refreshSkewSeconds : Int := 60
  cacheMaxEntries : Int := 100000
  refreshLeaseSeconds : Int := 30
  refreshTimeoutSeconds : Int := 60
  sweepIntervalSeconds : Int := 60
  filePathScheme : String := "delta-sharing"
  logLevel : String := "INFO"
  deriving DecidableEq, Repr

namespace Settings

/-- The words that switch a setting on. -/
def onWords : List String := ["1", "true", "yes", "y", "on"]

/-- The text of a variable without the white space around it; a blank one counts as missing. -/
def textOf? (raw : Option String) : Option String :=
  raw.bind fun s =>
    let s := Text.trim s
    if s = "" then none else some s

/-- A setting that is on or off. -/
def readSwitch (raw : Option String) (default : Bool) : Bool :=
  match textOf? raw with
  | some s => onWords.contains (Text.lower s)
  | none => default

/-- A setting that is a number. -/
def readNumber (raw : Option String) (default : Int) : Int :=
  ((textOf? raw).bind readInt?).getD default

/-- A setting that is a text. -/
def readText (raw : Option String) (default : String) : String := (textOf? raw).getD default

/-- The settings of an environment; every variable begins with the same lead. -/
def ofEnvironment (valueOf : String → Option String) (lead : String) : Settings :=
  let base : Settings := {}
  let raw (name : String) := valueOf (lead ++ name)
  { predicateHints := readSwitch (raw "PREDICATE_HINTS_ENABLED") base.predicateHints
    dataPredicates := readSwitch (raw "PREDICATE_V2_ENABLED") base.dataPredicates
    limitPushdown := readSwitch (raw "LIMIT_PUSHDOWN_ENABLED") base.limitPushdown
    linkCache := readSwitch (raw "URL_CACHE_ENABLED") base.linkCache
    structuralMatch := readSwitch (raw "STRUCTURAL_SCHEMA_MATCH_ENABLED") base.structuralMatch
    cachePopulation := readText (raw "CACHE_POPULATION") base.cachePopulation
    refreshSkewSeconds := readNumber (raw "URL_REFRESH_SKEW_SEC") base.refreshSkewSeconds
    cacheMaxEntries := readNumber (raw "URL_CACHE_MAX_ENTRIES") base.cacheMaxEntries
    refreshLeaseSeconds := readNumber (raw "REFRESH_LEASE_SEC") base.refreshLeaseSeconds
    refreshTimeoutSeconds := readNumber (raw "REFRESH_TIMEOUT_SEC") base.refreshTimeoutSeconds
    sweepIntervalSeconds := readNumber (raw "CACHE_SWEEP_INTERVAL_SEC") base.sweepIntervalSeconds
    filePathScheme := readText (raw "FILE_PATH_SCHEME") base.filePathScheme
    logLevel := readText (raw "LOG_LEVEL") base.logLevel }

/-- The settings as a JSON object, under the names of their variables without the lead. -/
def toJson (s : Settings) : Json :=
  .obj [
    ("PREDICATE_HINTS_ENABLED", .bool s.predicateHints),
    ("PREDICATE_V2_ENABLED", .bool s.dataPredicates),
    ("LIMIT_PUSHDOWN_ENABLED", .bool s.limitPushdown),
    ("URL_CACHE_ENABLED", .bool s.linkCache),
    ("STRUCTURAL_SCHEMA_MATCH_ENABLED", .bool s.structuralMatch),
    ("CACHE_POPULATION", .str s.cachePopulation),
    ("URL_REFRESH_SKEW_SEC", .int s.refreshSkewSeconds),
    ("URL_CACHE_MAX_ENTRIES", .int s.cacheMaxEntries),
    ("REFRESH_LEASE_SEC", .int s.refreshLeaseSeconds),
    ("REFRESH_TIMEOUT_SEC", .int s.refreshTimeoutSeconds),
    ("CACHE_SWEEP_INTERVAL_SEC", .int s.sweepIntervalSeconds),
    ("FILE_PATH_SCHEME", .str s.filePathScheme),
    ("LOG_LEVEL", .str s.logLevel)]

end Settings

namespace LogLevel

/-- The capital of a letter as far as capitals of the Latin alphabet are concerned: the dotless i
and the long s have such capitals too. -/
def capital (c : Char) : Char :=
  if c = 'ı' then 'I' else if c = 'ſ' then 'S' else c.toUpper

/-- The names of levels and their numbers. -/
def levels : List (String × Nat) := [
  ("DEBUG", 10), ("INFO", 20), ("WARN", 30), ("WARNING", 30), ("ERROR", 40), ("CRITICAL", 50),
  ("FATAL", 50), ("NOTSET", 0)]

/-- The number of a level; a name that is missing or not known means the level of information. -/
def number (name : Option String) : Nat :=
  let name := (name.filter (· ≠ "")).getD "INFO"
  (levels.lookup (String.ofList (name.toList.map capital))).getD 20

end LogLevel

end SharedTables
