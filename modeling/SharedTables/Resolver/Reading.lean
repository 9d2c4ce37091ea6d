import SharedTables.Resolver.Scanning

/-! Reading a file of a resolved scan: its path leads to a link, from the cache or signed anew. -/
namespace SharedTables

/-- A file whose link is signed without the cache. -/
structure DirectRead where
  table : TableReference
  fileId : String
  deriving DecidableEq, Repr

/-- How the first stretch of reading a path ends. -/
inductive PathProgress
  | failed (e : ScanError)
  /-- The cache reads the link. -/
  | cached (progress : Cache.ReadProgress)
  /-- Let a service sign one file. -/
  | sign (issuer : Issuer) (read : DirectRead)

namespace Resolver

/-- `ScanResolver.file_url`, without the cache and up to `sign`: begins to read a file. -/
def beginDirectRead (r : Resolver) (path : String) (file : FilePath) : PathProgress :=
  match r.tables.get? file.tableLocation, r.issuer with
  | none, _ => .failed (.collaborator (.credential (.notResolved path)))
  | some _, none => .failed (.collaborator (.credential (.noIssuerForFile file.fileId)))
  | some table, some issuer => .sign issuer ⟨table, file.fileId⟩

end Resolver

namespace DirectRead

/-- `ScanResolver.file_url`, without the cache and after `sign`: the link of a file. -/
def finish (read : DirectRead) (answer : Signature) : Except ScanError Link :=
  match answer with
  | .error fault =>
    .error (.collaborator (.credential (.signingFileFailed read.fileId read.table fault.message)))
  | .ok none => .error .noAnswer
  | .ok (some links) =>
    match links.get? read.fileId with
    | some link => .ok link
    | none => .error (.collaborator (.credential (.notSigned read.fileId read.table)))

end DirectRead

namespace Site

/-- `ScanResolver.file_url`, its first stretch: reading a path. -/
def read (s : Site) (m : Moment) (path : String) : Site × PathProgress :=
  match FilePath.decode s.resolver.settings.scheme path with
  | .error e => (s, .failed (.path e))
  | .ok file =>
    match s.linkCache? with
    | some cache =>
      let (cache, progress) := cache.get m file.tableLocation file.fileId
      ({ s with cache := some cache }, .cached progress)
    | none => (s, s.resolver.beginDirectRead path file)

end Site
end SharedTables
