import SharedTables.Resolver.Basic

/-! What a resolver asks of a server before it knows the files of a scan: first the metadata of the
table, which is checked against the plan, then the listing. -/
namespace SharedTables

/-- What files are wanted for. -/
inductive ScanPurpose
  /-- The rows of the scan: predicates and limits count. -/
  | rows
  /-- All files that the scan could read. -/
  | inputs
  deriving DecidableEq, Repr

/-- A scan that waits for the live metadata of its table. -/
structure PlanCheck where
  purpose : ScanPurpose
  table : TableReference
  params : ScanParameters
  /-- The key of the version. -/
  key : String
  /-- What scans of the version were planned against. -/
  planned : Option TableMetadata

/-- A request for the files of one version of a table. -/
structure ListingRequest where
  table : TableReference
  hints : Option String
  limit : Option Int
  version : Option Version

/-- A scan that waits for its listing. -/
structure Listing where
  purpose : ScanPurpose
  request : ListingRequest
  fingerprint : String
  /-- What the scan was planned against. -/
  metadata : TableMetadata

/-- A scan that waits for the listing of changes. -/
structure ChangeListing where
  table : TableReference
  start : Int
  last : Option Int
  fingerprint : String
  /-- The limit that applies. -/
  limit : Option Int

namespace TableMetadata

/-- The schema of a table. -/
def schema (metadata : TableMetadata) : Except ScanError Schema :=
  match Schema.ofText metadata.schemaText with
  | .ok schema => .ok schema
  | .error e => .error (.schema e)

/-- `ScanResolver._snapshot_partition_schema`: the columns that an engine derives from the place of
a file. -/
def partitionSchema (metadata : TableMetadata) : Except ScanError Schema :=
  if metadata.partitionColumns.isEmpty then .ok []
  else
    match metadata.schema with
    | .error e => .error e
    | .ok schema =>
      match Schema.partitionSchema schema metadata.partitionColumns with
      | .ok columns => .ok columns
      | .error e => .error (.unknownPartition e)

/-- `ScanResolver._check_metadata`, its comparison: checks live metadata against the plan. -/
def checkAgainst (live planned : TableMetadata) (mode : SchemaMatch) : Except ScanError Unit :=
  match planned.schema, live.schema with
  | .error e, _ => .error e
  | .ok _, .error e => .error e
  | .ok plannedSchema, .ok liveSchema =>
    match Schema.checkCompatible mode plannedSchema liveSchema planned.partitionColumns
      live.partitionColumns with
    | .ok () => .ok ()
    | .error difference => .error (.mismatch difference)

end TableMetadata

namespace Resolver

/-- `ScanResolver.plan`, after `get_metadata` has returned: plans scans of a version against the
metadata that a server has answered. -/
def plan (r : Resolver) (version : Option Version) (answer : Except Fault TableMetadata) :
    Resolver × Except ScanError TableMetadata :=
  match answer with
  | .error fault => (r, .error (.collaborator fault))
  | .ok metadata =>
    match r.rememberPlan version metadata with
    | .ok r => (r, .ok metadata)
    | .error e => (r, .error (.version e))

/-- `ScanResolver._check_metadata`, up to `get_metadata`: begins a scan of one version. -/
def beginCheck (r : Resolver) (purpose : ScanPurpose) (table : TableReference)
    (params : ScanParameters) : Except ScanError PlanCheck :=
  match Version.key params.version with
  | .ok key => .ok { purpose, table, params, key, planned := r.planned.get? key }
  | .error e => .error (.version e)

/-- `ScanResolver._check_metadata`, after `get_metadata`: the metadata that a scan is checked
against, which are the plan if the live metadata agree with it, and the live metadata if there is no
plan yet. -/
def finishCheck (r : Resolver) (check : PlanCheck) (answer : Except Fault TableMetadata) :
    Resolver × Except ScanError TableMetadata :=
  match check.planned with
  | none => r.plan check.params.version answer
  | some planned =>
    match answer with
    | .error fault => (r, .error (.collaborator fault))
    | .ok live =>
      match live.checkAgainst planned r.settings.schemaMatch with
      | .ok () => (r, .ok planned)
      | .error e => (r, .error e)

/-- The request for the files of a scan. -/
def listingRequest (r : Resolver) (purpose : ScanPurpose) (table : TableReference)
    (params : ScanParameters) : ListingRequest :=
  match purpose with
  | .rows =>
    { table, hints := r.hints params, limit := r.effectiveLimit params, version := params.version }
  | .inputs => { table, hints := none, limit := none, version := params.version }

/-- The fingerprint of a scan of one version. -/
def listingFingerprint (r : Resolver) (purpose : ScanPurpose) (params : ScanParameters) :
    Except Fingerprint.Error String :=
  match purpose with
  | .rows =>
    Fingerprint.snapshot (r.fingerprintPredicates params) (r.effectiveLimit params) params.version
  | .inputs => Fingerprint.snapshot [] none params.version

/-- `ScanResolver.resolve` and `input_files`, up to `list_files`: the listing of a scan whose
metadata have been checked. -/
def beginListing (r : Resolver) (check : PlanCheck) (metadata : TableMetadata) :
    Except ScanError Listing :=
  match r.listingFingerprint check.purpose check.params with
  | .error e => .error (.fingerprint e)
  | .ok fingerprint =>
    .ok {
      purpose := check.purpose
      request := r.listingRequest check.purpose check.table check.params
      fingerprint
      metadata }

/-- `ScanResolver._resolve_changes`, up to `list_change_files`: the listing of a scan of changes. -/
def beginChanges (r : Resolver) (purpose : ScanPurpose) (table : TableReference)
    (params : ScanParameters) (start : Int) (last : Option Int) : Except ScanError ChangeListing :=
  match Fingerprint.range start last with
  | .error e => .error (.fingerprint e)
  | .ok fingerprint =>
    .ok {
      table, start, last, fingerprint
      limit := match purpose with
        | .rows => r.effectiveLimit params
        | .inputs => none }

end Resolver

namespace Listing

/-- The files that count of those that a server has listed. -/
def kept (listing : Listing) (actions : List FileAction) : List FileAction :=
  filesWithin actions listing.request.limit

/-- `ScanResolver.resolve` and `input_files`, after `list_files`: the result of a scan with the
listed files. -/
def outcome (listing : Listing) (place : ScanPlace) (actions : List FileAction) :
    Except ScanError ResolvedScan :=
  let scan := ResolvedScan.ofListing place (listing.kept actions)
  match listing.purpose with
  | .inputs => .ok scan
  | .rows =>
    match listing.metadata.partitionSchema with
    | .error e => .error e
    | .ok columns =>
      .ok { scan with hints := listing.request.hints, partitionSchema := some columns }

end Listing
end SharedTables
