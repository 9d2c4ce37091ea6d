import SharedTables.Resolver.Reading

/-! Resolvers that share a cache. Their users, the servers and the services may
act between any two stretches of a call, so a history is any list of events;
calls that wait for an answer are kept until it comes. -/
namespace SharedTables

/-- How far a call of a resolver has come. -/
inductive Session.Stage
  | scan (progress : ScanProgress)
  | read (progress : PathProgress)
  /-- A read without the cache has ended. -/
  | link (result : Except ScanError Link)

/-- What a call waits for. -/
inductive Session.Reply
  | metadata (answer : Except Fault TableMetadata)
  | files (answer : Except Fault (List FileAction))
  | changes (answer : Except Fault ChangeFiles)
  | signature (answer : Signature)
  /-- A refresh has ended, or the time for waiting is over. -/
  | wakeUp

/-- The stretch of a call after a reply; a call goes on with the reply that it waits for. -/
def Site.resume (s : Site) (m : Moment) : Session.Stage → Session.Reply → Option (Site × Session.Stage)
  | .scan (.metadata check), .metadata answer =>
    let (resolver, progress) := s.resolver.checked check answer
    some ({ s with resolver }, .scan progress)
  | .scan (.files listing), .files answer => some ((s.listed m listing answer).map id .scan)
  | .scan (.changes listing), .changes answer => some ((s.changesListed m listing answer).map id .scan)
  | .scan (.sign registration), .signature answer => some ((s.signed m registration answer).map id .scan)
  | .read (.cached (.wait _ lookup)), .wakeUp =>
    s.cache.map fun cache =>
      let (cache, progress) := cache.look m lookup
      ({ s with cache := some cache }, .read (.cached progress))
  | .read (.cached (.sign _ refresh)), .signature answer =>
    s.cache.map fun cache =>
      let (cache, result) := cache.finishRefresh m refresh answer
      ({ s with cache := some cache }, .read (.cached (.done result)))
  | .read (.sign _ read), .signature answer => some (s, .link (read.finish answer))
  | _, _ => none

/-- A call of a resolver, which is known by its number. -/
structure Session.Call where
  resolver : Nat
  stage : Stage

/-- What happens to resolvers that share a cache. -/
inductive Session.Action
  | enter (settings : ResolverSettings) (location mark : String) (issuer : Option Issuer)
  | plan (resolver : Nat) (version : Option Version) (answer : Except Fault TableMetadata)
  /-- A scan begins, as a call with a number of its own. -/
  | scan (call resolver : Nat) (purpose : ScanPurpose) (table : TableReference) (params : ScanParameters)
  | scanBatch (call resolver : Nat) (table : TableReference) (actions : List FileAction) (start : Int)
      (last : Option Int)
  | read (call resolver : Nat) (path : String)
  | reply (call : Nat) (reply : Reply)
  | close (resolver : Nat)
  | sweep

/-- An action and the clocks when it is taken. -/
structure Session.Event where
  moment : Moment
  action : Session.Action

/-- Resolvers that share a cache, numbered as they came, with their calls and
the scans that have been handed out and not been closed since. -/
structure Session where
  cache : Cache
  resolvers : List Resolver
  calls : OrderedMap Nat Session.Call
  scans : List (Nat × ResolvedScan)

namespace Session

/-- A resolver with the shared cache. -/
def site (s : Session) (r : Resolver) : Site := ⟨r, some s.cache⟩

/-- What a stretch of a call leaves behind. -/
def record (s : Session) (call resolver : Nat) (went : Site × Stage) : Session where
  cache := went.1.cache.getD s.cache
  resolvers := s.resolvers.set resolver went.1.resolver
  calls := s.calls.insert call ⟨resolver, went.2⟩
  scans := match went.2 with
    | .scan (.done (.ok scan)) => (resolver, scan) :: s.scans
    | _ => s.scans

/-- The first stretch of a call, whose number must be new. -/
def start (s : Session) (call resolver : Nat) (stretch : Site → Site × Stage) : Session :=
  match s.calls.get? call, s.resolvers[resolver]? with
  | none, some r => s.record call resolver (stretch (s.site r))
  | _, _ => s

/-- A later stretch of a call. -/
def resume (s : Session) (m : Moment) (call : Nat) (reply : Reply) : Session :=
  match s.calls.get? call with
  | none => s
  | some ⟨resolver, stage⟩ =>
    match s.resolvers[resolver]? with
    | none => s
    | some r =>
      match (s.site r).resume m stage reply with
      | none => s
      | some went => s.record call resolver went

/-- A resolver releases its batches; the scans that it has handed out are closed. -/
def close (s : Session) (resolver : Nat) : Session :=
  match s.resolvers[resolver]? with
  | none => s
  | some r =>
    let closed := (s.site r).close
    { s with
      cache := closed.cache.getD s.cache
      resolvers := s.resolvers.set resolver closed.resolver
      scans := s.scans.filter (·.1 ≠ resolver) }

/-- One event. -/
def step (s : Session) (e : Event) : Session :=
  match e.action with
  | .enter settings location mark issuer =>
    { s with resolvers := s.resolvers ++ [.new settings location mark issuer] }
  | .plan resolver version answer =>
    match s.resolvers[resolver]? with
    | none => s
    | some r => { s with resolvers := s.resolvers.set resolver (r.plan version answer).1 }
  | .scan call resolver purpose table params =>
    s.start call resolver fun site => (site, .scan (site.resolver.begin purpose table params))
  | .scanBatch call resolver table actions start last =>
    s.start call resolver fun site => (site.resolveBatch e.moment table actions start last).map id .scan
  | .read call resolver path =>
    s.start call resolver fun site => (site.read e.moment path).map id .read
  | .reply call reply => s.resume e.moment call reply
  | .close resolver => s.close resolver
  | .sweep => { s with cache := (s.cache.sweep e.moment).1 }

/-- A new cache, without resolvers, after a history whose latest event comes first. -/
def run (settings : CacheSettings) : List Event → Session
  | [] => ⟨.new settings, [], .empty, []⟩
  | e :: earlier => (run settings earlier).step e

end Session

end SharedTables
