import SharedTables.Resolver.Listing

/-! Resolving a scan. It runs in stretches; between two of them a server answers or a service signs,
and other callers may run. A scan is registered in the cache before its result is handed out. -/
namespace SharedTables

/-- A scan that waits for its links to be signed. -/
structure Registration where
  issuer : Issuer
  filling : Cache.Filling
  /-- The result once the links are in the cache. -/
  outcome : Except ScanError ResolvedScan

/-- How a stretch of resolving a scan ends. -/
inductive ScanProgress
  | done (result : Except ScanError ResolvedScan)
  /-- Let the server answer with the metadata of the table. -/
  | metadata (check : PlanCheck)
  /-- Let the server list the files of a version. -/
  | files (listing : Listing)
  /-- Let the server list the changes of a range of versions. -/
  | changes (listing : ChangeListing)
  /-- Let a service sign the files without a link. -/
  | sign (registration : Registration)

namespace Resolver

/-- `ScanResolver.resolve` and `input_files`, up to the first request to the server: the first
stretch of resolving a scan. -/
def begin (r : Resolver) (purpose : ScanPurpose) (table : TableReference)
    (params : ScanParameters) : ScanProgress :=
  match params.changes, params.version with
  | true, some (.range start last) =>
    match r.beginChanges purpose table params start last with
    | .ok listing => .changes listing
    | .error e => .done (.error e)
  | _, _ =>
    match r.beginCheck purpose table params with
    | .ok check => .metadata check
    | .error e => .done (.error e)

/-- `ScanResolver.resolve`: resolves a scan into the files that hold its rows. -/
def resolve (r : Resolver) : TableReference → ScanParameters → ScanProgress := r.begin .rows

/-- `ScanResolver.input_files`: resolves a scan into all files that it could read. -/
def inputFiles (r : Resolver) : TableReference → ScanParameters → ScanProgress := r.begin .inputs

/-- `ScanResolver._check_metadata` and what its callers do up to `list_files`: the stretch after the
server has answered with metadata. -/
def checked (r : Resolver) (check : PlanCheck) (answer : Except Fault TableMetadata) :
    Resolver × ScanProgress :=
  match r.finishCheck check answer with
  | (r, .error e) => (r, .done (.error e))
  | (r, .ok metadata) =>
    match r.beginListing check metadata with
    | .ok listing => (r, .files listing)
    | .error e => (r, .done (.error e))

end Resolver

namespace Site

/-- The cache, unless the resolver keeps no links in it. -/
def linkCache? (s : Site) : Option Cache := if s.resolver.settings.linkCache then s.cache else none

/-- `ScanResolver._populate`, after `populate` has returned or raised: the end of a scan whose links
are in the cache, or could not be put there. -/
def finishRegistration (s : Site) (tableKey : String) (outcome : Except ScanError ResolvedScan)
    (result : Except Fault Unit) : Site × ScanProgress :=
  match result with
  | .error fault => (s, .done (.error (.collaborator fault)))
  | .ok () => ({ s with resolver := s.resolver.rememberBatch tableKey }, .done outcome)

/-- `ScanResolver._populate`, until `populate` returns or a service signs: puts the links of a scan
into the cache. -/
def register (s : Site) (m : Moment) (table : TableReference) (tableKey : String)
    (actions : List FileAction) (outcome : Except ScanError ResolvedScan) : Site × ScanProgress :=
  let s := { s with resolver := s.resolver.rememberTable tableKey table }
  match s.linkCache? with
  | none => (s, .done outcome)
  | some cache =>
    let population := s.resolver.settings.population
    match cache.populate m population tableKey table actions s.resolver.issuer with
    | (cache, .done result) =>
      { s with cache := some cache }.finishRegistration tableKey outcome result
    | (cache, .sign issuer filling) =>
      ({ s with cache := some cache }, .sign ⟨issuer, filling, outcome⟩)

/-- `ScanResolver._build`: the stretch after the server has listed the files of a version. -/
def listed (s : Site) (m : Moment) (listing : Listing) (answer : Except Fault (List FileAction)) :
    Site × ScanProgress :=
  match answer with
  | .error fault => (s, .done (.error (.collaborator fault)))
  | .ok actions =>
    let place := s.resolver.place listing.fingerprint
    s.register m listing.request.table place.tableKey (listing.kept actions)
      (listing.outcome place actions)

/-- `ScanResolver._resolve_changes`, after `list_change_files`: the stretch after the server has
listed changes. -/
def changesListed (s : Site) (m : Moment) (listing : ChangeListing)
    (answer : Except Fault ChangeFiles) : Site × ScanProgress :=
  match answer with
  | .error fault => (s, .done (.error (.collaborator fault)))
  | .ok changes =>
    let place := s.resolver.place listing.fingerprint
    let groups := changes.within listing.limit
    s.register m listing.table place.tableKey (groups.flatMap (·.2)) (.ok (.ofChanges place groups))

/-- `ScanResolver.resolve_batch`: resolves files that have been listed already for a range of
versions. -/
def resolveBatch (s : Site) (m : Moment) (table : TableReference) (actions : List FileAction)
    (start : Int) (last : Option Int) : Site × ScanProgress :=
  match Fingerprint.range start last with
  | .error e => (s, .done (.error (.fingerprint e)))
  | .ok fingerprint =>
    let place := s.resolver.place fingerprint
    s.register m table place.tableKey actions (.ok (.ofListing place actions))

/-- `ScanResolver._populate`, after a service has signed within `populate`: the last stretch. -/
def signed (s : Site) (m : Moment) (registration : Registration) (answer : Signature) :
    Site × ScanProgress :=
  match s.cache with
  | none => (s, .done registration.outcome)
  | some cache =>
    let (cache, result) := cache.populated m registration.issuer registration.filling answer
    { s with cache := some cache }.finishRegistration registration.filling.tableKey
      registration.outcome result

/-- `ScanResolver.close`: releases every batch that the resolver has registered. -/
def close (s : Site) : Site :=
  { resolver := { s.resolver with registered := [] }
    cache := s.cache.map fun cache => s.resolver.registered.foldl Cache.release cache }

end Site
end SharedTables
