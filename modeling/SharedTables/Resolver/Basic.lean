import SharedTables.Cache.Lookup
import SharedTables.Cache.Filling
import SharedTables.Predicate.WireForm
import SharedTables.Scan.Fingerprint
import SharedTables.Scan.Resolved
import SharedTables.Schema.Compatibility
import SharedTables.Schema.Reader

/-! Resolvers turn scans of shared tables into references to files. A resolver remembers the
metadata that scans were planned against, the tables it has listed and the batches it has
registered in the cache. -/
namespace SharedTables

/-- What a server says about a table. -/
structure TableMetadata where
  /-- The schema as JSON text. -/
  schemaText : String
  partitionColumns : List String
  deriving DecidableEq, Repr

/-- How a resolver works. -/
structure ResolverSettings where
  hints : Predicate.HintSettings
  /-- Whether row limits are sent and applied. -/
  limitPushdown : Bool
  /-- Whether links are kept in the cache. -/
  linkCache : Bool
  schemaMatch : SchemaMatch
  population : Population
  scheme : String
  deriving DecidableEq, Repr

/-- Resolves the scans of one user. -/
structure Resolver where
  settings : ResolverSettings
  tableLocation : String
  issuer : Option Issuer
  /-- The metadata that scans were planned against, by the key of the version. -/
  planned : OrderedMap String TableMetadata
  /-- The tables that have been listed, by the key of their links. -/
  tables : OrderedMap String TableReference
  /-- The keys of the batches to release, in the order of their registration. -/
  registered : List String

/-- A resolver together with the cache that it shares with others, if it was given one. -/
structure Site where
  resolver : Resolver
  cache : Option Cache

/-- Why a scan or a read has no result. -/
inductive ScanError
  /-- A collaborator or the cache failed. -/
  | collaborator (fault : Fault)
  | version (e : VersionError)
  | fingerprint (e : Fingerprint.Error)
  | schema (e : SchemaError)
  | mismatch (difference : SchemaMismatch)
  | unknownPartition (e : Schema.UnknownPartition)
  | path (e : PathError)
  /-- A service answered nothing at all when it was asked for one link. -/
  | noAnswer

namespace ScanError

/-- The words for an error, where it has any. -/
def message : ScanError → Option String
  | .collaborator fault => some fault.message
  | .version e => some e.message
  | .fingerprint e => some e.message
  | .schema e => e.message
  | .mismatch difference => some (mismatchMessage difference.detail)
  | .unknownPartition e => some e.message
  | .path e => some e.message
  | .noAnswer => none

end ScanError

namespace Resolver

/-- `ScanResolver.__init__`: a resolver that has done nothing yet. Without the cache of links its
location gets a mark that no other resolver has. -/
def new (settings : ResolverSettings) (location mark : String) (issuer : Option Issuer) :
    Resolver :=
  { settings
    tableLocation := if settings.linkCache then location else markedLocation location mark
    issuer
    planned := .empty
    tables := .empty
    registered := [] }

/-- Remembers the metadata that scans of a version are planned against. -/
def rememberPlan (r : Resolver) (version : Option Version) (metadata : TableMetadata) :
    Except VersionError Resolver :=
  (Version.key version).map fun key => { r with planned := r.planned.insert key metadata }

/-- Remembers which table the links of a key belong to. -/
def rememberTable (r : Resolver) (tableKey : String) (table : TableReference) : Resolver :=
  { r with tables := r.tables.insert tableKey table }

/-- Remembers a batch to release. -/
def rememberBatch (r : Resolver) (tableKey : String) : Resolver :=
  { r with registered := r.registered ++ [tableKey] }

/-- The place of the references of a scan. -/
def place (r : Resolver) (fingerprint : String) : ScanPlace :=
  { tableLocation := r.tableLocation, fingerprint, scheme := r.settings.scheme }

/-- `ScanResolver.predicate_hints`: the predicates that are sent with a listing request. -/
def hints (r : Resolver) (params : ScanParameters) : Option String :=
  Predicate.hints? r.settings.hints params.partition params.data

/-- `ScanResolver._fingerprint_predicates`: the predicates that shape a listing; those on data
columns do so only when they are sent. -/
def fingerprintPredicates (r : Resolver) (params : ScanParameters) : List Predicate :=
  if r.settings.hints.enabled && r.settings.hints.dataColumns then params.partition ++ params.data
  else params.partition

/-- `ScanResolver._effective_limit`: the limit that applies to a scan. -/
def effectiveLimit (r : Resolver) (params : ScanParameters) : Option Int :=
  if r.settings.limitPushdown then params.limit else none

end Resolver
end SharedTables
