import SharedTables.Cache.Store

/-! Reading a link: `PresignedUrlCache.get` and `_refresh_batch`. A read that finds no fresh link
refreshes the whole batch, or waits while another read does. A read runs in stretches during which
nothing else touches the cache; between two stretches it waits, or a service signs, and other
callers may run. -/
namespace SharedTables.Cache

/-- A read that has not refreshed anything: what `get` remembers from one turn of its loop to the
next. -/
structure Lookup where
  key : EntryKey
  /-- When the read stops waiting for others. -/
  deadline : Seconds
  /-- The generation of the batch when the read first waited. -/
  seen : Option Nat
  deriving DecidableEq, Repr

/-- A refresh of a batch by a read that holds its lease: the arguments of `_refresh_batch`. -/
structure Refresh where
  key : EntryKey
  /-- The batch as it was when the lease was taken. -/
  serial : Nat
  token : Nat
  table : TableReference
  fileIds : List String
  deriving DecidableEq, Repr

/-- How a stretch of a read ends. -/
inductive ReadProgress
  | done (result : Except Fault Link)
  /-- Wait until a refresh ends, at most for a time. -/
  | wait (limit : Seconds) (lookup : Lookup)
  /-- Let a service sign the files of a batch. -/
  | sign (issuer : Issuer) (refresh : Refresh)

/-- `get`, before its loop: a read of a file that begins now. -/
def beginLookup (c : Cache) (m : Moment) (key : EntryKey) : Lookup :=
  { key, deadline := Seconds.later m.monotonic c.settings.refreshTimeout, seen := none }

/-- `get`, its first check: the link of an entry if it is fresh; the clock is read only when there
is an entry. -/
def freshLink? (c : Cache) (m : Moment) (key : EntryKey) : Except Fault (Option Link) :=
  match c.entries.get? key with
  | none => .ok none
  | some link =>
    match m.epoch with
    | .error fault => .error fault
    | .ok now => .ok (if c.isFresh link now then some link else none)

/-- A hit is counted. -/
def countHit (c : Cache) : Cache := { c with stats := { c.stats with hits := c.stats.hits + 1 } }

/-- `get`, once the generation has moved: what a read finds after the refresh it waited for, its
fault or whatever link is there. -/
def afterRefresh (c : Cache) (key : EntryKey) (batch : Batch) : Cache × Except Fault Link :=
  match batch.lastFault, c.entries.get? key with
  | some fault, _ => (c, .error (.credential (.refreshFailed key.tableKey fault.message)))
  | none, none => (c, .error (.credential (.notSignedInBatch key.fileId key.tableKey)))
  | none, some link => (c.countHit, .ok link)

/-- Whether a lease is in force at a time. -/
def Lease.inForce (lease : Lease) (now : Seconds) : Bool := decide (now < lease.expires)

/-- `get`, where it leaves its loop: takes the lease of a batch and counts a miss. -/
def takeLease (c : Cache) (m : Moment) (key : EntryKey) (batch : Batch) : Cache × Refresh :=
  let token := c.nextNumber
  let lease : Lease := ⟨token, Seconds.later m.monotonic c.settings.lease⟩
  ({ c with
    batches := c.batches.modify key.tableKey fun b => { b with lease := some lease }
    stats := { c.stats with misses := c.stats.misses + 1 }
    nextNumber := token + 1 },
    { key, serial := batch.serial, token, table := batch.table, fileIds := batch.fileIds })

/-- The batch after a refresh of it ended: the lease is given back unless another read has taken it
over, and the end is counted. -/
def Batch.settle (b : Batch) (r : Refresh) (fault : Option Fault) : Batch :=
  if b.serial = r.serial then
    { b with
      lease := b.lease.filter (·.token ≠ r.token)
      generation := b.generation + 1
      lastFault := fault }
  else b

/-- Notes the end of a refresh in its batch, if that is still registered. -/
def settleBatch (c : Cache) (r : Refresh) (fault : Option Fault) : Cache :=
  { c with batches := c.batches.modify r.key.tableKey fun b => Batch.settle b r fault }

/-- `_refresh_batch`, its handler: ends a refresh that failed. -/
def refreshFailed (c : Cache) (r : Refresh) (fault : Fault) : Cache × Except Fault Link :=
  let c := { c with stats := { c.stats with refreshFailures := c.stats.refreshFailures + 1 } }
  (c.settleBatch r (some fault),
    match fault with
    | .credential _ => .error fault
    | .other _ message => .error (.credential (.refreshFailed r.key.tableKey message)))

/-- `_refresh_batch`, after `sign` has returned: ends a refresh that a service has answered. The
links are stored even if the batch is gone. -/
def refreshed (c : Cache) (m : Moment) (r : Refresh) (links : Links) : Cache × Except Fault Link :=
  let c := { c with stats := { c.stats with refreshes := c.stats.refreshes + 1 } }
  match c.store m r.key.tableKey links (some r.key) with
  | (c, .error fault) => (c, .error fault)
  | (c, .ok ()) =>
    (c.settleBatch r none,
      match c.entries.get? r.key with
      | some link => .ok link
      | none => .error (.credential (.notSignedInBatch r.key.fileId r.key.tableKey)))

/-- `_refresh_batch`, from the call of `sign` on: ends a refresh; a service that answers nothing at
all has signed no file. -/
def finishRefresh (c : Cache) (m : Moment) (r : Refresh) (answer : Signature) :
    Cache × Except Fault Link :=
  match answer with
  | .error fault => c.refreshFailed r fault
  | .ok links => c.refreshed m r (links.getD .empty)

/-- The service that refreshes a batch: its own, or else that of the cache. -/
def issuerFor (c : Cache) (batch : Batch) : Option Issuer := batch.refresher.or c.settings.issuer

/-- `_refresh_batch`, up to the call of `sign`: refreshes a batch whose lease is free. Without a
service the refresh fails at once. -/
def refreshBatch (c : Cache) (m : Moment) (key : EntryKey) (batch : Batch) :
    Cache × ReadProgress :=
  let issuer := c.issuerFor batch
  let (c, refresh) := c.takeLease m key batch
  match issuer with
  | some issuer => (c, .sign issuer refresh)
  | none =>
    let (c, result) :=
      c.refreshFailed refresh (.credential (.noIssuerForBatch key.tableKey))
    (c, .done result)

/-- `get`, while a lease is in force: waits for a refresh, or gives up when the deadline has
passed. -/
def awaitRefresh (c : Cache) (m : Moment) (l : Lookup) (batch : Batch) (lease : Lease) :
    ReadProgress :=
  let remaining := Seconds.between m.monotonic l.deadline
  if remaining ≤ 0 then
    .done (.error (.credential (.timedOut c.settings.refreshTimeout l.key.tableKey)))
  else
    let leaseLeft := Seconds.between m.monotonic lease.expires
    .wait (if leaseLeft < remaining then leaseLeft else remaining)
      { l with seen := l.seen.or (some batch.generation) }

/-- `get`, the rest of a turn of its loop: a read that found no fresh link looks at the batch. -/
def lookInBatch (c : Cache) (m : Moment) (l : Lookup) (batch : Batch) : Cache × ReadProgress :=
  if l.key.fileId ∉ batch.fileIds then
    (c, .done (.error (.credential (.notInBatch l.key.fileId l.key.tableKey))))
  else if l.seen.any (· ≠ batch.generation) then
    let (c, result) := c.afterRefresh l.key batch
    (c, .done result)
  else
    match batch.lease.filter (Lease.inForce · m.monotonic) with
    | some lease => (c, c.awaitRefresh m l batch lease)
    | none => c.refreshBatch m l.key batch

/-- `get`, one turn of its loop: a stretch of a read, at its beginning and after every wait. -/
def look (c : Cache) (m : Moment) (l : Lookup) : Cache × ReadProgress :=
  match c.freshLink? m l.key with
  | .error fault => (c, .done (.error fault))
  | .ok (some link) => ({ c.countHit with entries := c.entries.touch l.key }, .done (.ok link))
  | .ok none =>
    match c.batches.get? l.key.tableKey with
    | none => (c, .done (.error (.credential (.unknownBatch l.key.tableKey))))
    | some batch => c.lookInBatch m l batch

/-- `PresignedUrlCache.get`, until it waits, calls `sign` or returns: the first stretch of reading
the link of a file. -/
def get (c : Cache) (m : Moment) (tableKey fileId : String) : Cache × ReadProgress :=
  c.look m (c.beginLookup m ⟨tableKey, fileId⟩)

end SharedTables.Cache
